import AccountSessions.Proofs.FreshTokens
import AccountSessions.Proofs.LoginDecisions

/-!
# Renewed sessions

A refresh reads the claims of its token, the account that they name and the record of the
token, and never asks whether these belong together.  They do, as the token of a record
was signed for the owner of the record.  So a refresh renews the session of the owner,
under the same token, and neither a refresh nor a check of a token changes anything.
-/

namespace AccountSessions

/-! ## Sessions that go on -/

/-- The session goes on under its token, for the owner of the record. -/
structure Service.Renews
    (service : Service) (state : State) (token : String) (session : Session)
    (record : SessionRecord) (owner : Account) : Prop where
  stored : state.database.record? token = some record
  owned : state.database.account? record.userId = some owner
  account : session.account = owner.withoutHash
  refreshToken : session.refreshToken = token
  /-- At its moment the access token tells whose it is, whatever has happened since. -/
  accessToken : Token.isPlainSecret service.issuer.secret = true →
    0 < service.issuer.accessTtl.micros → state.now.InEra →
    (∀ expires, state.now.add? service.issuer.accessTtl = some expires → expires.InEra) →
    ∃ claims, claims.userId = owner.id ∧ claims.email = .plain owner.email ∧
      service.issuer.validate state.now .access session.accessToken = .ok claims ∧
      ∀ later : State, later.now = state.now →
        (exec (service.validateToken session.accessToken) later).1 = .ok claims

theorem Reached.renews
    {service : Service} {begin : Moment} {ids : Nat → String} {state : State}
    (hreached : Reached service (State.start begin ids) state)
    (hnonempty : ∀ number, ids number ≠ "") {now : Moment} {token : String} {session : Session}
    {later : State}
    (hrefresh : exec (service.refresh token) { state with now := now } = (.ok session, later)) :
    ∃ record owner, service.Renews { state with now := now } token session record owner := by
  have hfitting := hreached.fitting rfl rfl
  have hintegral := hreached.integral rfl rfl
  have hcalm : ({ state with now := now } : State).disturbances = [] := hfitting.undisturbed
  obtain ⟨claims, account, accessToken, hvalid, haccount, hlive, hissue, rfl, -⟩ :=
    Service.renewed_of_refresh hcalm service hrefresh
  obtain ⟨record, hmem, rfl, -, -⟩ := Database.liveRecord?_isSome.mp hlive
  obtain ⟨owner, howner, grant, hentitles⟩ := hreached.entitled rfl rfl record hmem
  have howned := hentitles.account?_eq hintegral howner
  -- The account was looked up under the claims, and the signature ties them to the record.
  obtain rfl : owner = account := by
    rw [← Option.some.injEq, ← howned, ← haccount,
      Token.Issuer.userId_of_validate_signed hentitles.signed hvalid, hentitles.userId]
  have hemail : owner.email ≠ "" := by
    rw [hentitles.email]
    exact Token.Issuer.email_ne_empty_of_validate_signed hentitles.signed hvalid
  have htokenId : state.tokenIds.next ≠ "" := by
    rw [TokenIds.next_of_unfixed hfitting.fixed, hfitting.text]
    exact hnonempty _
  refine ⟨record, owner, ?_, howned, rfl, rfl, ?_⟩
  · exact find?_eq_of_nodup hintegral.tokens hmem
  · intro hplain hlifetime hnow hlast
    have hpositive := ((hreached.consecutive rfl rfl).bounds howner).1
    obtain ⟨claims, haccess, huser, haddress⟩ := Token.Issuer.validate_at_once hplain hissue
      (fun _ => .of_fits hpositive (hfitting.fits owner howner) hemail htokenId) hlifetime hnow
      hlast
    refine ⟨claims, huser, haddress, haccess, ?_⟩
    intro later hmoment
    rw [← hmoment] at haccess
    exact congrArg Prod.fst (Service.exec_validateToken service haccess)

/-! ## Every run -/

/-- No row has changed and no event was published. -/
structure State.Unmoved (later state : State) : Prop where
  database : later.database = state.database
  announcements : later.announcements = state.announcements

theorem Rests.unmoved
    {α : Type} {action : Operation α} {state : State}
    {condition : Except Failure α → Database → Prop}
    (hrests : Rests action state fun outcome database =>
      database = state.database ∧ condition outcome database) :
    (exec action state).2.Unmoved state := by
  obtain ⟨outcome, database, ⟨later, hexec, hleads⟩, rfl, -⟩ := hrests.yields
  rw [hexec]
  exact ⟨hleads.database, hleads.silent⟩

/-- After any run of calls a refresh and a check of a token change nothing.  A refresh that
succeeds returns its token as it is, for the owner of the record of the token, and with an
access token that tells who the owner is.  As long as the supply of ids does not repeat
itself, all tokens that logins and refreshes have handed out are different. -/
theorem refresh_renews
    {service : Service} {begin : Moment} {ids : Nat → String}
    (hnonempty : ∀ number, ids number ≠ "") {history : List Entry} {state : State}
    (hrun : Run service (State.start begin ids) history state) :
    (∀ (now : Moment) (token : String),
      let clocked : State := { state with now }
      let refreshed := exec (service.refresh token) clocked
      let checked := exec (service.validateToken token) clocked
      refreshed.2.Unmoved clocked ∧ checked.2.Unmoved clocked ∧
        ∀ session, refreshed.1 = .ok session →
          ∃ record owner, service.Renews clocked token session record owner) ∧
    (Function.Injective ids → (history.flatMap Entry.issued).Nodup) := by
  refine ⟨?_, fun hids => (hrun.minted hids).distinct⟩
  intro now token clocked refreshed checked
  have hcalm : clocked.disturbances = [] := (hrun.supplied rfl).undisturbed
  refine ⟨(Service.rests_refresh hcalm service token).unmoved,
    (Service.rests_validateToken hcalm service token).unmoved, ?_⟩
  intro session hsession
  exact hrun.reached.renews hnonempty (Prod.ext hsession rfl)

/-- Ann has logged in, and the refresh token that she got renews her session at once. -/
theorem refresh_renews_for_ann :
    ∃ (history : List Entry) (state : State) (token : String) (session : Session),
      Run .lenient (State.start .epoch Token.unaryId) history state ∧
      let clocked : State := { state with now := .epoch }
      (exec (Service.lenient.refresh token) clocked).1 = .ok session ∧
      (∃ record owner, Service.lenient.Renews clocked token session record owner ∧
        ∃ claims, claims.userId = owner.id ∧
          Service.lenient.issuer.validate .epoch .access session.accessToken = .ok claims) ∧
      (history.flatMap Entry.issued).Nodup := by
  obtain ⟨history, state, ann, bob, hentered⟩ := exists_entered
  obtain ⟨session, hsession, -⟩ := hentered.refreshes
  have hepoch : Moment.epoch.InEra := ⟨by decide, by decide⟩
  have haccess : Moment.epoch.add? Service.lenient.issuer.accessTtl =
      some { micros := 900000000 } := rfl
  obtain ⟨hrenews, hdistinct⟩ := refresh_renews Token.unaryId_ne_empty hentered.run
  obtain ⟨-, -, hrenewed⟩ := hrenews .epoch ann.refreshToken
  obtain ⟨record, owner, hrecord⟩ := hrenewed session hsession
  obtain ⟨claims, huser, -, hvalid, -⟩ := hrecord.accessToken Service.lenient_plain (by decide)
    hepoch (by dsimp only; rw [haccess]; rintro _ ⟨⟩; exact ⟨by decide, by decide⟩)
  exact ⟨history, state, ann.refreshToken, session, hentered.run, hsession,
    ⟨record, owner, hrecord, claims, huser, hvalid⟩, hdistinct Token.unaryId_injective⟩

end AccountSessions
