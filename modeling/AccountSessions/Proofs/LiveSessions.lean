import AccountSessions.Proofs.RecordTokens

/-!
# Live sessions

The live records, up to their numbers, and what each change of the database makes of
them.  A record that has stopped being live stays so, which is why only the live ones
matter.  Tokens are drawn with numbers of their own, so a new token is stored nowhere,
whatever records there are.
-/

namespace AccountSessions

/-! ## Live records up to their numbers -/

namespace SessionRecord

def unnumbered (record : SessionRecord) : SessionRecord :=
  { record with id := 0 }

theorem isSpent_eq (record : SessionRecord) (now : Moment) :
    record.isSpent now = !record.isLive now := by
  rw [isSpent, isLive, Bool.not_and, Bool.or_comm]

theorem isLive_of_later
    {record : SessionRecord} {now later : Moment} (horder : now.micros ≤ later.micros)
    (hlive : record.isLive later = true) :
    record.isLive now = true := by
  simp only [isLive, Moment.before, Bool.and_eq_true, decide_eq_true_eq] at hlive ⊢
  exact ⟨hlive.1, Int.lt_of_le_of_lt horder hlive.2⟩

end SessionRecord

namespace Database

variable {db : Database} {now : Moment}

/-- The live records without their numbers, in the order of the table. -/
def sessionsAt (db : Database) (now : Moment) : List SessionRecord :=
  (db.records.filter (·.isLive now)).map SessionRecord.unnumbered

theorem sessionsAt_later {later : Moment} (horder : now.micros ≤ later.micros) :
    db.sessionsAt later = (db.sessionsAt now).filter (·.isLive later) := by
  have hfilter : db.records.filter (·.isLive later) =
      (db.records.filter (·.isLive now)).filter (·.isLive later) := by
    rw [List.filter_filter]
    apply List.filter_congr
    intro record _
    cases hlive : record.isLive later with
    | false => rfl
    | true => rw [SessionRecord.isLive_of_later horder hlive]; rfl
  rw [sessionsAt, hfilter, sessionsAt, List.filter_map]
  rfl

theorem sessionsAt_sweep
    (db : Database) {moment : Moment} (horder : moment.micros ≤ now.micros) :
    (db.sweep moment).sessionsAt now = db.sessionsAt now := by
  have hfilter : (db.records.filter (!·.isSpent moment)).filter (·.isLive now) =
      db.records.filter (·.isLive now) := by
    rw [List.filter_filter]
    apply List.filter_congr
    intro record _
    rw [SessionRecord.isSpent_eq, Bool.not_not]
    cases hlive : record.isLive now with
    | false => rfl
    | true => rw [SessionRecord.isLive_of_later horder hlive]; rfl
  rw [sessionsAt, sweep, hfilter, sessionsAt]

/-- A revocation ends the sessions that it is about, if it does not ask for numbers. -/
theorem sessionsAt_revokeWhere
    {test : SessionRecord → Bool} (hblind : ∀ record, test record.unnumbered = test record)
    (db : Database) (moment now : Moment) :
    (db.revokeWhere test moment).sessionsAt now = (db.sessionsAt now).filter (!test ·) := by
  unfold sessionsAt revokeWhere
  induction db.records with
  | nil => rfl
  | cons record rest ih =>
      rw [List.map_cons]
      cases hlive : record.isLive now with
      | false =>
          have hstill : (if record.isOpen && test record then
              { record with revokedAt := some moment } else record).isLive now = false := by
            split
            · rfl
            · exact hlive
          simp only [List.filter_cons, hstill, hlive]
          exact ih
      | true =>
          have hopen : record.isOpen = true := by
            rw [SessionRecord.isLive, Bool.and_eq_true] at hlive
            exact hlive.1
          cases htest : test record with
          | true =>
              have hclosed : ({ record with revokedAt := some moment } : SessionRecord).isLive now =
                  false := rfl
              simp only [hopen, Bool.and_true, if_true, List.filter_cons, hclosed, hlive,
                List.map_cons, hblind, htest]
              exact ih
          | false =>
              simp only [hopen, Bool.and_false, Bool.false_eq_true, if_false, List.filter_cons,
                hlive, if_true, List.map_cons, hblind, htest, Bool.not_false]
              exact congrArg _ ih

theorem sessionsAt_addRecord?
    {added : Database} {userId id : Int} {token : String} {expires moment : Moment}
    (hadd : db.addRecord? userId token expires moment = some (id, added)) (now : Moment) :
    added.sessionsAt now = db.sessionsAt now ++
      ([⟨0, userId, token, expires, moment, none⟩] : List SessionRecord).filter (·.isLive now) := by
  obtain ⟨-, rfl⟩ := addRecord?_eq_some hadd
  rw [sessionsAt, List.filter_append, List.map_append, ← sessionsAt]
  congr 1
  rw [List.filter_cons, List.filter_cons]
  have hsame : SessionRecord.isLive ⟨id, userId, token, expires, moment, none⟩ now =
      SessionRecord.isLive ⟨0, userId, token, expires, moment, none⟩ now := rfl
  rw [hsame]
  split
  · rfl
  · rfl

theorem liveRecord?_isNone (db : Database) (token : String) (now : Moment) :
    (db.liveRecord? token now).isNone = !(db.sessionsAt now).any (·.token == token) := by
  have hany : (db.sessionsAt now).any (·.token == token) =
      db.records.any fun record => record.token == token && record.isLive now := by
    rw [sessionsAt, List.any_map, List.any_filter]
    congr 1
    funext record
    exact Bool.and_comm _ _
  rw [hany, liveRecord?, ← List.isSome_find?, Option.not_isSome]

end Database

/-! ## Numbers of tokens -/

namespace Token

/-- A signed token tells its payload. -/
theorem payload_eq_of_sign
    {secret token : String} {payload other : Json}
    (hlegible : Json.Legible Json.nestingLimit payload) (hobject : payload.isObject = true)
    (hlegibleOther : Json.Legible Json.nestingLimit other) (hobjectOther : other.isObject = true)
    (hsign : sign secret payload = .ok token) (hother : sign secret other = .ok token) :
    payload = other := by
  obtain ⟨key, -, htoken⟩ := sign_eq_ok.mp hsign
  obtain ⟨key', -, htoken'⟩ := sign_eq_ok.mp hother
  have hopen := openToken_signed key payload
  rw [← htoken, htoken', openToken_signed] at hopen
  have hbytes := congrArg Opened.payload (Except.ok.inj hopen)
  have hread := readPayload_write hlegible hobject
  simp only [signedParts] at hbytes
  rw [← hbytes, readPayload_write hlegibleOther hobjectOther] at hread
  exact (Except.ok.inj hread).symm

namespace Grant

theorem tokenId_eq_of_sign
    {secret token : String} {grant other : Grant} (hsign : sign secret grant.payload = .ok token)
    (hother : sign secret other.payload = .ok token) :
    grant.tokenId = other.tokenId := by
  have hpayload := payload_eq_of_sign grant.legible_payload rfl other.legible_payload rfl hsign
    hother
  have hids : grant.payload.member? "jti" = other.payload.member? "jti" := by rw [hpayload]
  have htext : some (Json.text grant.tokenId) = some (Json.text other.tokenId) := hids
  injection htext with htext
  injection htext with htext
  injection htext

end Grant

end Token

/-- Every record holds a refresh token with a number below the bound. -/
def NumberedBelow (service : Service) (ids : Nat → String) (bound : Nat) (db : Database) : Prop :=
  ∀ record ∈ db.records, ∃ grant : Token.Grant, grant.Backs service.issuer record ∧
    ∃ number < bound, grant.tokenId = ids number

namespace NumberedBelow

variable {service : Service} {ids : Nat → String} {bound : Nat} {db : Database}

theorem empty (service : Service) (ids : Nat → String) (bound : Nat) :
    NumberedBelow service ids bound .empty := by
  intro record hmem
  cases hmem

theorem mono
    (hbelow : NumberedBelow service ids bound db) {greater : Nat} (hbound : bound ≤ greater) :
    NumberedBelow service ids greater db := by
  intro record hmem
  obtain ⟨grant, hbacks, number, hnumber, hid⟩ := hbelow record hmem
  exact ⟨grant, hbacks, number, Nat.lt_of_lt_of_le hnumber hbound, hid⟩

theorem of_sameLogin
    (hbelow : NumberedBelow service ids bound db) {later : Database}
    (hsame : ∀ record ∈ later.records, ∃ old ∈ db.records, Database.SameLogin record old) :
    NumberedBelow service ids bound later := by
  intro record hmem
  obtain ⟨old, hold, hlogin⟩ := hsame record hmem
  obtain ⟨grant, hbacks, hnumber⟩ := hbelow old hold
  exact ⟨grant, hbacks.of_sameLogin hlogin, hnumber⟩

/-- A refresh token with a new number is stored nowhere. -/
theorem ne_of_issue
    (hbelow : NumberedBelow service ids bound db) (hids : Function.Injective ids) {now : Moment}
    {userId : Int} {email token : String}
    (hissue : service.issuer.issue .refresh now (ids bound) userId (some email) = .ok token) :
    ∀ record ∈ db.records, record.token ≠ token := by
  obtain ⟨expires, -, hsign⟩ := Token.Issuer.issue_eq_ok.mp hissue
  rintro record hmem rfl
  obtain ⟨grant, hbacks, number, hnumber, hid⟩ := hbelow record hmem
  have hsame := Token.Grant.tokenId_eq_of_sign hbacks.signed hsign
  rw [hid] at hsame
  exact Nat.ne_of_lt hnumber (hids hsame)

theorem record?_eq_none
    (hbelow : NumberedBelow service ids bound db) (hids : Function.Injective ids) {now : Moment}
    {userId : Int} {email token : String}
    (hissue : service.issuer.issue .refresh now (ids bound) userId (some email) = .ok token) :
    db.record? token = none :=
  List.find?_eq_none.mpr fun record hmem => by
    simpa using hbelow.ne_of_issue hids hissue record hmem

theorem addRecord?
    (hbelow : NumberedBelow service ids bound db) {now expires : Moment} {userId id : Int}
    {email token : String} {added : Database}
    (hissue : service.issuer.issue .refresh now (ids bound) userId (some email) = .ok token)
    (hexpires : now.add? service.issuer.refreshTtl = some expires)
    (hadd : db.addRecord? userId token expires now = some (id, added)) :
    NumberedBelow service ids (bound + 1) added := by
  obtain ⟨-, rfl⟩ := Database.addRecord?_eq_some hadd
  intro record hmem
  rcases List.mem_append.mp hmem with hold | hnew
  · exact (hbelow.mono (Nat.le_succ bound)) record hold
  · rw [List.mem_singleton.mp hnew]
    obtain ⟨other, hother, hsign⟩ := Token.Issuer.issue_eq_ok.mp hissue
    have hsame : some other = some expires := hother.symm.trans hexpires
    injection hsame with hsame
    rw [hsame] at hsign
    exact ⟨_, ⟨hsign, rfl, rfl, rfl, rfl⟩, bound, Nat.lt_succ_self bound, rfl⟩

end NumberedBelow

end AccountSessions
