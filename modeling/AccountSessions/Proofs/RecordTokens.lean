import AccountSessions.Proofs.Runs

/-!
# The tokens of records

Every record was made by a login, which signed its token for the owner.  So whatever
secret is in use, a token that validates at all names the owner of its records.
-/

namespace AccountSessions

theorem Token.Grant.Readable.of_fits
    {grant : Token.Grant} (hpositive : 0 < grant.userId)
    (hfits : Store.fitsColumn grant.userId = true) (hemail : grant.email ≠ "")
    (htokenId : grant.tokenId ≠ "") :
    grant.Readable where
  notNegative := Int.le_of_lt hpositive
  fewDigits := by
    simp only [Store.fitsColumn, WholeNumber.fitsWord, Bool.and_eq_true, decide_eq_true_eq] at hfits
    exact Token.fewDigits_of_lt_word hfits.2
  hasEmail := hemail
  hasTokenId := htokenId

/-- The token of the record was signed for a grant to its user. -/
structure Token.Grant.Backs (grant : Token.Grant) (issuer : Token.Issuer) (record : SessionRecord) :
    Prop where
  signed : Token.sign issuer.secret grant.payload = .ok record.token
  userId : grant.userId = record.userId
  kind : grant.kind = .refresh
  issued : grant.issued = record.createdAt
  expires : grant.expires = record.expiresAt

theorem Token.Grant.Backs.of_sameLogin
    {grant : Token.Grant} {issuer : Token.Issuer} {record other : SessionRecord}
    (hbacks : grant.Backs issuer other) (hsame : Database.SameLogin record other) :
    grant.Backs issuer record where
  signed := hsame.token ▸ hbacks.signed
  userId := hbacks.userId.trans hsame.userId.symm
  kind := hbacks.kind
  issued := hbacks.issued.trans hsame.createdAt.symm
  expires := hbacks.expires.trans hsame.expiresAt.symm

theorem FreshRecord.exists_backs
    {service : Service} {ids : TokenIds} {now : Moment} {db : Database} {account : Account}
    {tokenId : String} {record : SessionRecord}
    (hfresh : FreshRecord service ids now db account tokenId record) :
    Token.Grant.Backs
      ⟨.refresh, account.id, account.email, tokenId, now, record.expiresAt⟩ service.issuer
      record := by
  obtain ⟨expires, hexpires, hsign⟩ := Token.Issuer.issue_eq_ok.mp hfresh.issued
  have hsame : some expires = some record.expiresAt := hexpires.symm.trans hfresh.expires
  injection hsame with hsame
  rw [hsame] at hsign
  exact ⟨hsign, hfresh.owner.symm, rfl, hfresh.createdAt.symm, rfl⟩

def Backed (service : Service) (db : Database) : Prop :=
  ∀ record ∈ db.records, ∃ grant : Token.Grant, grant.Backs service.issuer record

theorem Effect.backed
    {service : Service} {ids : TokenIds} {now : Moment} {db later : Database} {call : Call}
    {outcome : Except Failure Answer} (heffect : Effect service ids now db call outcome later)
    (hbacked : Backed service db) :
    Backed service later := by
  intro record hmem
  rcases heffect.mem_records hmem with ⟨old, hold, hsame⟩ | ⟨account, tokenId, hfresh⟩
  · obtain ⟨grant, hgrant⟩ := hbacked old hold
    exact ⟨grant, hgrant.of_sameLogin hsame⟩
  · exact ⟨_, hfresh.exists_backs⟩

theorem Run.backed
    {service : Service} {begin : Moment} {ids : Nat → String} {history : List Entry} {state : State}
    (hrun : Run service (State.start begin ids) history state) :
    Backed service state.database := by
  refine Run.invariant rfl (fun _ db => Backed service db) ?_ ?_ hrun
  · intro record hmem
    cases hmem
  · rintro history db entry later hbacked ⟨ids, heffect, -⟩
    exact heffect.backed hbacked

/-- Whoever is the subject of a token owns the records of the token. -/
theorem Backed.owner
    {service : Service} {db : Database} (hbacked : Backed service db) {record : SessionRecord}
    (hmem : record ∈ db.records) {moment : Moment} {kind : Token.Kind} {claims : Token.Claims}
    (hvalid : service.issuer.validate moment kind record.token = .ok claims) :
    claims.userId = record.userId := by
  obtain ⟨grant, hgrant⟩ := hbacked record hmem
  rw [Token.Issuer.userId_of_validate_signed hgrant.signed hvalid, hgrant.userId]

end AccountSessions
