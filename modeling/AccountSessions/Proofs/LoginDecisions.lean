import AccountSessions.Proofs.ReachedStates
import AccountSessions.Proofs.SessionCalls
import AccountSessions.Proofs.SmallDeployment

/-!
# What a login decides

An identifier names the account that has it as its user name or, if nobody has, the one
that has it as its address.  The checks of that account decide a login in a fixed order.
A login that succeeds adds its record, marks the account as seen and changes nothing
else; both of its tokens say whose they are and have ids of their own.  As long as the
supply of ids does not repeat itself, the record never clashes with another one.
-/

namespace AccountSessions

/-! ## Names -/

namespace Database

/-- The account has the identifier as its user name or, if nobody has, as its address. -/
def Names (db : Database) (identifier : String) (account : Account) : Prop :=
  account ∈ db.accounts ∧
    (account.username = identifier ∨
      account.email = identifier ∧ ∀ other ∈ db.accounts, other.username ≠ identifier)

theorem names_of_accountOf?
    {db : Database} {identifier : String} {account : Account}
    (hfound : db.accountOf? identifier = some account) :
    db.Names identifier account := by
  refine ⟨mem_of_accountOf? hfound, ?_⟩
  unfold accountOf? at hfound
  rcases Option.or_eq_some_iff.mp hfound with hname | ⟨hnobody, hemail⟩
  · exact .inl (by simpa using List.find?_some hname)
  · refine .inr ⟨by simpa using List.find?_some hemail, ?_⟩
    intro other hother
    simpa using List.find?_eq_none.mp hnobody other hother

/-- At most one account is named. -/
theorem Integral.accountOf?_of_names
    {db : Database} (hintegral : db.Integral) {identifier : String} {account : Account}
    (hnames : db.Names identifier account) :
    db.accountOf? identifier = some account := by
  unfold accountOf?
  obtain ⟨hmem, rfl | ⟨rfl, hnobody⟩⟩ := hnames
  · rw [find?_eq_of_nodup hintegral.usernames hmem, Option.some_or]
  · have hnone : db.accounts.find? (·.username == account.email) = none :=
      List.find?_eq_none.mpr fun other hother => by simpa using hnobody other hother
    rw [hnone, find?_eq_of_nodup hintegral.emails hmem, Option.none_or]

end Database

/-! ## What tokens say -/

namespace Token

/-- The token says of which kind it is, whose it is and which id it has. -/
def Labels (token : String) (kind : Kind) (userId : Int) (tokenId : String) : Prop :=
  ∃ payload, Holds token payload ∧ payload.member? "typ" = some (.text kind.name) ∧
    payload.member? "sub" = some (.text (toString userId)) ∧
    payload.member? "jti" = some (.text tokenId)

theorem Issuer.labels_of_issue
    {issuer : Issuer} {kind : Kind} {now : Moment} {tokenId email token : String} {userId : Int}
    (hissue : issuer.issue kind now tokenId userId (some email) = .ok token) :
    Labels token kind userId tokenId := by
  obtain ⟨expires, -, hsign⟩ := issue_eq_ok.mp hissue
  exact ⟨_, Grant.holds_of_sign hsign, rfl, rfl, rfl⟩

end Token

/-! ## Sessions that were opened -/

namespace Service

/-- The session was opened for the account, with these ids of its tokens.  Its record is the
only new row, and nothing but the account has been changed. -/
structure Opened
    (service : Service) (state : State) (account : Account) (accessId refreshId : String)
    (session : Session) (later : Database) : Prop where
  rows : ∃ id expires, state.now.add? service.issuer.refreshTtl = some expires ∧
    (∀ old ∈ state.database.records, old.id ≠ id) ∧
    later =
      { accounts := state.database.accounts.map fun row =>
          if row.id = account.id then
            { row with lastLoginAt := some state.now, updatedAt := state.now }
          else row
        records := state.database.records ++
          [{ id, userId := account.id, token := session.refreshToken, expiresAt := expires
             createdAt := state.now, revokedAt := none }] }
  access : Token.Labels session.accessToken .access account.id accessId
  refresh : Token.Labels session.refreshToken .refresh account.id refreshId

theorem OpeningEnd.opened_of_ok
    {service : Service} {state : State} {account : Account}
    {result : Except Failure Session × State} (hend : OpeningEnd service state account result)
    {session : Session} (hsession : result.1 = .ok session) :
    service.Opened state account state.tokenIds.next state.tokenIds.rest.next session
      result.2.database := by
  cases hend with
  | accessFails | refreshFails | unfit | taken => cases hsession
  | opened haccess hrefresh hexpires hadd =>
      obtain rfl := Except.ok.inj hsession
      obtain ⟨record, rfl, rfl, hid, -, -⟩ := Database.exists_of_addRecord? hadd
      refine ⟨⟨_, _, hexpires, ?_, rfl⟩, Token.Issuer.labels_of_issue haccess,
        Token.Issuer.labels_of_issue hrefresh⟩
      intro old hold
      rw [hid]
      exact Int.ne_of_lt (Database.lt_nextId (List.mem_map_of_mem hold))

/-- A record whose token is new does not clash. -/
theorem LoginEnd.ne_tokenCollision
    {service : Service} {state : State} {identifier password : String}
    {result : Except Failure Session × State}
    (hend : LoginEnd service state identifier password result)
    (hnew : ∀ (account : Account) (refreshToken : String),
      service.issuer.issue .refresh state.now state.tokenIds.rest.next account.id
        (some account.email) = .ok refreshToken →
      ∀ record ∈ state.database.records, record.token ≠ refreshToken) :
    result.1 ≠ .error (.usual .tokenCollision) := by
  intro hcollision
  cases hend with
  | denied | unverified => cases hcollision
  | @admitted account _ hfound _ _ _ hopening =>
      cases hopening with
      | accessFails | refreshFails | unfit | opened => cases hcollision
      | taken _ hrefresh htaken =>
          have hhas : state.database.hasAccount account.id = true :=
            Database.hasAccount_eq_true.mpr ⟨account, Database.mem_of_accountOf? hfound, rfl⟩
          obtain ⟨old, hold, htoken⟩ := Database.exists_of_addRecord?_eq_none hhas htaken
          exact hnew account _ hrefresh old hold htoken

end Service

/-- What a login must come to when the next two ids of tokens are the given ones. -/
structure LoginRule
    (service : Service) (state : State) (accessId refreshId identifier password : String)
    (result : Except Failure Session × State) : Prop where
  unknown : (∀ account, ¬ state.database.Names identifier account) →
    result.1 = .error (.usual .invalidCredentials)
  unverified : ∀ account, state.database.Names identifier account →
    account.emailVerified = false → result.1 = .error (.usual .emailNotVerified)
  denied : ∀ account, state.database.Names identifier account → account.emailVerified = true →
    Password.verify password account.passwordHash = false ∨ account.isActive = false →
    result.1 = .error (.usual .invalidCredentials)
  /-- Behind the checks only the tokens matter. -/
  admitted : ∀ account, state.database.Names identifier account → account.emailVerified = true →
    Password.verify password account.passwordHash = true → account.isActive = true →
    ((∃ session, result.1 = .ok session) ↔
      ∃ accessToken refreshToken,
        service.issuer.issue .access state.now accessId account.id (some account.email) =
          .ok accessToken ∧
        service.issuer.issue .refresh state.now refreshId account.id (some account.email) =
          .ok refreshToken ∧
        ∀ record ∈ state.database.records, record.token ≠ refreshToken)
  opened : ∀ session, result.1 = .ok session →
    ∃ account, state.database.Names identifier account ∧ account.emailVerified = true ∧
      Password.verify password account.passwordHash = true ∧ account.isActive = true ∧
      service.Opened state account accessId refreshId session result.2.database
  failed : ∀ failure, result.1 = .error failure → result.2.database = state.database

/-- Names are unique, and ids fit, so the checks find the account that is named. -/
theorem LoginRule.of_end
    {service : Service} {state : State} {identifier password : String}
    {result : Except Failure Session × State}
    (hend : Service.LoginEnd service state identifier password result)
    (hintegral : state.database.Integral)
    (hfits : ∀ account ∈ state.database.accounts, Store.fitsColumn account.id = true) :
    LoginRule service state state.tokenIds.next state.tokenIds.rest.next identifier password
      result where
  unknown := by
    intro hnobody
    apply hend.of_unknown
    rw [Option.eq_none_iff_forall_ne_some]
    exact fun account hfound => hnobody account (Database.names_of_accountOf? hfound)
  unverified := fun account hnames =>
    hend.of_unverified (hintegral.accountOf?_of_names hnames)
  denied := fun account hnames => hend.of_denied (hintegral.accountOf?_of_names hnames)
  admitted := by
    intro account hnames hverified hright hactive
    have hopening :=
      hend.of_admitted (hintegral.accountOf?_of_names hnames) hverified hright hactive
    exact hopening.opens_iff (hfits account hnames.1)
      (Database.hasAccount_eq_true.mpr ⟨account, hnames.1, rfl⟩)
  opened := by
    intro session hsession
    obtain ⟨account, hfound, hverified, hright, hactive, hopening⟩ :=
      hend.exists_opening hsession
    exact ⟨account, Database.names_of_accountOf? hfound, hverified, hright, hactive,
      hopening.opened_of_ok hsession⟩
  failed := fun failure => hend.database_of_error

/-- Every login keeps the rule, in every state that deeds lead to.  If the supply of token
ids does not repeat itself, its two ids are distinct, no new refresh token is stored already
and the record never clashes with another one. -/
theorem login_decided
    {service : Service} {begin : Moment} {ids : Nat → String} {state : State}
    (hreached : Reached service (State.start begin ids) state) (now : Moment)
    (identifier password : String) :
    let clocked : State := { state with now }
    let accessId := ids (state.tokenIds.drawn + 1)
    let refreshId := ids (state.tokenIds.drawn + 2)
    let result := exec (service.login identifier password) clocked
    LoginRule service clocked accessId refreshId identifier password result ∧
      (Function.Injective ids →
        accessId ≠ refreshId ∧
        (∀ (account : Account) (refreshToken : String),
          service.issuer.issue .refresh now refreshId account.id (some account.email) =
            .ok refreshToken →
          ∀ record ∈ state.database.records, record.token ≠ refreshToken) ∧
        result.1 ≠ .error (.usual .tokenCollision)) := by
  intro clocked accessId refreshId result
  have hfitting := hreached.fitting rfl rfl
  have hcalm : clocked.disturbances = [] := hfitting.undisturbed
  have hfixed : clocked.tokenIds.fixed = none := hfitting.fixed
  have htext : clocked.tokenIds.text = ids := hfitting.text
  have haccess : clocked.tokenIds.next = accessId := by
    rw [TokenIds.next_of_unfixed hfixed, htext]
  have hrefresh : clocked.tokenIds.rest.next = refreshId := by
    rw [TokenIds.next_rest_of_unfixed hfixed, htext]
  have hend : Service.LoginEnd service clocked identifier password result :=
    Service.exec_login hcalm service identifier password
  refine ⟨?_, ?_⟩
  · rw [← haccess, ← hrefresh]
    exact .of_end hend (hreached.integral rfl rfl) hfitting.fits
  · intro hids
    have hbelow : NumberedBelow service ids (state.tokenIds.drawn + 2) state.database :=
      (hreached.numberedBelow hids).mono (Nat.le_succ _)
    have hnew (account : Account) (refreshToken : String)
        (hissue : service.issuer.issue .refresh now refreshId account.id (some account.email) =
          .ok refreshToken) :
        ∀ record ∈ state.database.records, record.token ≠ refreshToken :=
      hbelow.ne_of_issue hids hissue
    refine ⟨fun hsame => absurd (hids hsame) (by omega), hnew, ?_⟩
    rw [← hrefresh] at hnew
    exact hend.ne_tokenCollision hnew

/-- Ann has registered and was verified, and with her password she gets in. -/
theorem login_decided_for_ann :
    ∃ (state : State) (account : Account) (session : Session),
      Reached .lenient (State.start .epoch Token.unaryId) state ∧
      state.database.Names "ann" account ∧
      let clocked : State := { state with now := .epoch }
      let result := exec (Service.lenient.login "ann" "p") clocked
      result.1 = .ok session ∧
      Service.lenient.Opened clocked account (Token.unaryId (state.tokenIds.drawn + 1))
        (Token.unaryId (state.tokenIds.drawn + 2)) session result.2.database := by
  obtain ⟨history, state, account, hrun, hadmits⟩ :=
    exists_run_admits .lenient (show (State.start .epoch Token.unaryId).disturbances = [] from rfl)
      rfl "ann" "a@b.org" Service.lenient_accepts Service.lenient_hash .epoch
  obtain ⟨hrule, hfresh⟩ := login_decided hrun.reached .epoch "ann" "p"
  obtain ⟨-, hnew, -⟩ := hfresh Token.unaryId_injective
  have hepoch : Moment.epoch.InEra := ⟨by decide, by decide⟩
  obtain ⟨accessToken, haccess⟩ := Service.lenient_issues hepoch .access _ account.id account.email
  obtain ⟨refreshToken, hrefresh⟩ :=
    Service.lenient_issues hepoch .refresh _ account.id account.email
  have hnames := Database.names_of_accountOf? hadmits.found
  obtain ⟨session, hsession⟩ :=
    (hrule.admitted account hnames hadmits.verified hadmits.accepts hadmits.active).mpr
      ⟨accessToken, refreshToken, haccess, hrefresh, hnew account refreshToken hrefresh⟩
  obtain ⟨named, hnamed, -, -, -, hopened⟩ := hrule.opened session hsession
  exact ⟨state, named, session, hrun.reached, hnamed, hsession, hopened⟩

end AccountSessions
