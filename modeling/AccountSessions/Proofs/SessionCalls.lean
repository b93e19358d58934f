import AccountSessions.Proofs.TwinCalls

/-!
# Logins and refreshes to the letter

Where a login ends is decided by its checks, by the two tokens that it issues and by
whether the refresh token is stored already.  The state that it leaves behind is known
down to the supply of token ids; only the log and the events are left open.  A refresh
that succeeds draws one id and changes nothing else.
-/

namespace AccountSessions

/-! ## Steps -/

theorem exec_bind_ok
    {ε α β : Type} {first : ExceptT ε (StateM State) α} {state later : State} {value : α}
    (hfirst : exec first state = (.ok value, later)) (next : α → ExceptT ε (StateM State) β) :
    exec (first >>= next) state = exec (next value) later := by
  rw [exec_bind, hfirst]

theorem exec_bind_error
    {ε α β : Type} {first : ExceptT ε (StateM State) α} {state later : State} {fault : ε}
    (hfirst : exec first state = (.error fault, later)) (next : α → ExceptT ε (StateM State) β) :
    exec (first >>= next) state = (.error fault, later) := by
  rw [exec_bind, hfirst]

namespace Hushes

variable {α β : Type} {state : State}

theorem exec_bind
    {first : Operation α} {value : α} (hfirst : Hushes first state value)
    (next : α → Operation β) :
    ∃ log published, exec (first >>= next) state =
      exec (next value) { state with log, published } := by
  obtain ⟨log, published, hexec⟩ := hfirst
  exact ⟨log, published, exec_bind_ok hexec next⟩

end Hushes

theorem hushes_checkPassword (password stored : String) (state : State) :
    Hushes (Service.checkPassword password stored) state (Password.verify password stored) := by
  unfold Service.checkPassword
  by_cases hunusable : Password.judge password stored = .unusable
  · rw [if_pos hunusable]
    exact ⟨_, _, rfl⟩
  · rw [if_neg hunusable]
    exact ⟨_, _, rfl⟩

namespace Store

variable {state : State}

theorem hushes_accountByIdentifier
    (hspared : state.disturbance? .accountByIdentifier = none) (identifier : String) :
    Hushes (accountByIdentifier identifier) state (state.database.accountOf? identifier) :=
  ⟨_, _, exec_guarded_of_spared hspared _ _ _⟩

theorem exec_createRecord
    (hspared : state.disturbance? .createRecord = none) {userId : Int}
    (hfits : fitsColumn userId = true) {token : String} {expires : Moment} {id : Int}
    {added : Database}
    (hadd : state.database.addRecord? userId token expires state.now = some (id, added)) :
    ∃ log, exec (createRecord userId token expires) state =
      (.ok id, { state with database := added, log }) := by
  rw [createRecord, exec_guarded_of_spared hspared, requireColumn, if_pos hfits]
  simp only [exec_bind, exec_pure, exec_get, hadd]
  exact ⟨_, rfl⟩

variable (hundisturbed : state.disturbances = [])

include hundisturbed

theorem hushes_accountById {id : Int} (hfits : fitsColumn id = true) :
    Hushes (accountById id) state (state.database.account? id) := by
  refine ⟨state.log, state.published, ?_⟩
  rw [accountById, exec_guarded hundisturbed, requireColumn, if_pos hfits]
  rfl

theorem hushes_liveRecord (token : String) :
    Hushes (liveRecord token) state (state.database.liveRecord? token state.now) :=
  ⟨_, _, exec_guarded hundisturbed _ _ _ _⟩

theorem exec_createRecord_taken
    {userId : Int} (hfits : fitsColumn userId = true) {token : String} {expires : Moment}
    (hadd : state.database.addRecord? userId token expires state.now = none) :
    ∃ log, exec (createRecord userId token expires) state =
      (.error (.usual .tokenCollision), { state with log }) := by
  rw [createRecord, exec_guarded hundisturbed, requireColumn, if_pos hfits]
  simp only [exec_bind, exec_pure, exec_get, hadd]
  exact ⟨_, rfl⟩

theorem exec_createRecord_overflow
    {userId : Int} (hfits : ¬ fitsColumn userId = true) (token : String) (expires : Moment) :
    exec (createRecord userId token expires) state =
      (.error (.broken .columnOverflow), state) := by
  rw [createRecord, exec_guarded hundisturbed, requireColumn, if_neg hfits]
  rfl

theorem exec_stampLogin {id : Int} (hfits : fitsColumn id = true) :
    exec (stampLogin id none) state =
      (.ok state.now, { state with database := state.database.stampLogin id state.now }) := by
  rw [stampLogin, exec_guarded hundisturbed, requireColumn, if_pos hfits]
  rfl

end Store

namespace Service

open Operation

variable {state : State}

/-! ## Logins -/

/-- How a session is opened, or not, for an account that may log in. -/
inductive OpeningEnd (service : Service) (state : State) (account : Account) :
    Except Failure Session × State → Prop where
  | accessFails {cause : Breakdown} {log : List Log.Line} {published : List Event}
      (haccess : service.issuer.issue .access state.now state.tokenIds.next account.id
        (some account.email) = .error cause) :
      OpeningEnd service state account
        (.error (.broken cause),
          { state with tokenIds := state.tokenIds.rest, log, published })
  | refreshFails {accessToken : String} {cause : Breakdown} {log : List Log.Line}
      {published : List Event}
      (haccess : service.issuer.issue .access state.now state.tokenIds.next account.id
        (some account.email) = .ok accessToken)
      (hrefresh : service.issuer.issue .refresh state.now state.tokenIds.rest.next account.id
        (some account.email) = .error cause) :
      OpeningEnd service state account
        (.error (.broken cause),
          { state with tokenIds := state.tokenIds.rest.rest, log, published })
  | unfit {log : List Log.Line} {published : List Event}
      (hfits : ¬ Store.fitsColumn account.id = true) :
      OpeningEnd service state account
        (.error (.broken .columnOverflow),
          { state with tokenIds := state.tokenIds.rest.rest, log, published })
  | taken {accessToken refreshToken : String} {expires : Moment} {log : List Log.Line}
      {published : List Event}
      (haccess : service.issuer.issue .access state.now state.tokenIds.next account.id
        (some account.email) = .ok accessToken)
      (hrefresh : service.issuer.issue .refresh state.now state.tokenIds.rest.next account.id
        (some account.email) = .ok refreshToken)
      (htaken : state.database.addRecord? account.id refreshToken expires state.now = none) :
      OpeningEnd service state account
        (.error (.usual .tokenCollision),
          { state with tokenIds := state.tokenIds.rest.rest, log, published })
  | opened {accessToken refreshToken : String} {expires : Moment} {id : Int} {added : Database}
      {log : List Log.Line} {published : List Event}
      (haccess : service.issuer.issue .access state.now state.tokenIds.next account.id
        (some account.email) = .ok accessToken)
      (hrefresh : service.issuer.issue .refresh state.now state.tokenIds.rest.next account.id
        (some account.email) = .ok refreshToken)
      (hexpires : state.now.add? service.issuer.refreshTtl = some expires)
      (hadd : state.database.addRecord? account.id refreshToken expires state.now =
        some (id, added))
      (hfits : Store.fitsColumn account.id = true) :
      OpeningEnd service state account
        (.ok (service.session { account with lastLoginAt := some state.now } accessToken
            refreshToken),
          { state with
            tokenIds := state.tokenIds.rest.rest
            database := added.stampLogin account.id state.now
            log, published })

/-- How a login ends, in the order of its checks. -/
inductive LoginEnd (service : Service) (state : State) (identifier password : String) :
    Except Failure Session × State → Prop where
  | denied {log : List Log.Line} {published : List Event}
      (hdenied : Denied state.database identifier password) :
      LoginEnd service state identifier password
        (.error (.usual .invalidCredentials), { state with log, published })
  | unverified {account : Account} {log : List Log.Line} {published : List Event}
      (hfound : state.database.accountOf? identifier = some account)
      (hunverified : account.emailVerified = false) :
      LoginEnd service state identifier password
        (.error (.usual .emailNotVerified), { state with log, published })
  | admitted {account : Account} {result : Except Failure Session × State}
      (hfound : state.database.accountOf? identifier = some account)
      (hverified : account.emailVerified = true)
      (hright : Password.verify password account.passwordHash = true)
      (hactive : account.isActive = true) (hopening : OpeningEnd service state account result) :
      LoginEnd service state identifier password result

namespace OpeningEnd

variable {service : Service} {account : Account} {result : Except Failure Session × State}
  (hend : OpeningEnd service state account result)

include hend

/-- A session is opened just if both tokens can be issued and the refresh token is new. -/
theorem opens_iff
    (hfits : Store.fitsColumn account.id = true)
    (hhas : state.database.hasAccount account.id = true) :
    (∃ session, result.1 = .ok session) ↔
      ∃ accessToken refreshToken,
        service.issuer.issue .access state.now state.tokenIds.next account.id
          (some account.email) = .ok accessToken ∧
        service.issuer.issue .refresh state.now state.tokenIds.rest.next account.id
          (some account.email) = .ok refreshToken ∧
        ∀ record ∈ state.database.records, record.token ≠ refreshToken := by
  constructor
  · rintro ⟨session, hsession⟩
    cases hend with
    | accessFails | refreshFails | unfit | taken => cases hsession
    | opened haccess hrefresh _ hadd =>
        obtain ⟨-, -, -, -, -, hnew⟩ := Database.exists_of_addRecord? hadd
        exact ⟨_, _, haccess, hrefresh, hnew⟩
  · rintro ⟨accessToken, refreshToken, haccess, hrefresh, hnew⟩
    cases hend with
    | accessFails hfails => exact nomatch hfails.symm.trans haccess
    | refreshFails _ hfails => exact nomatch hfails.symm.trans hrefresh
    | unfit hoverflow => exact absurd hfits hoverflow
    | taken _ hissued htaken =>
        obtain rfl := Except.ok.inj (hissued.symm.trans hrefresh)
        obtain ⟨old, hold, htoken⟩ := Database.exists_of_addRecord?_eq_none hhas htaken
        exact absurd htoken (hnew old hold)
    | opened => exact ⟨_, rfl⟩

theorem database_of_error {failure : Failure} (hfails : result.1 = .error failure) :
    result.2.database = state.database := by
  cases hend with
  | accessFails | refreshFails | unfit | taken => rfl
  | opened => cases hfails

theorem account_of_ok {session : Session} (hsession : result.1 = .ok session) :
    session.account = { account.withoutHash with lastLoginAt := some state.now } := by
  cases hend with
  | accessFails | refreshFails | unfit | taken => cases hsession
  | opened =>
      obtain rfl := Except.ok.inj hsession
      rfl

end OpeningEnd

namespace LoginEnd

variable {service : Service} {identifier password : String}
  {result : Except Failure Session × State}
  (hend : LoginEnd service state identifier password result)

include hend

theorem of_unknown (hunknown : state.database.accountOf? identifier = none) :
    result.1 = .error (.usual .invalidCredentials) := by
  cases hend with
  | denied => rfl
  | unverified hfound => exact nomatch hunknown.symm.trans hfound
  | admitted hfound => exact nomatch hunknown.symm.trans hfound

theorem exists_opening {session : Session} (hsession : result.1 = .ok session) :
    ∃ account, state.database.accountOf? identifier = some account ∧
      account.emailVerified = true ∧ Password.verify password account.passwordHash = true ∧
      account.isActive = true ∧ OpeningEnd service state account result := by
  cases hend with
  | denied | unverified => cases hsession
  | admitted hfound hverified hright hactive hopening =>
      exact ⟨_, hfound, hverified, hright, hactive, hopening⟩

theorem database_of_error {failure : Failure} (hfails : result.1 = .error failure) :
    result.2.database = state.database := by
  cases hend with
  | denied | unverified => rfl
  | admitted _ _ _ _ hopening => exact hopening.database_of_error hfails

variable {account : Account} (hfound : state.database.accountOf? identifier = some account)

include hfound

theorem of_unverified (hunverified : account.emailVerified = false) :
    result.1 = .error (.usual .emailNotVerified) := by
  cases hend with
  | denied hdenied => exact nomatch hunverified.symm.trans (hdenied.of_found hfound).1
  | unverified => rfl
  | admitted hother hverified =>
      obtain rfl := Option.some.inj (hfound.symm.trans hother)
      exact nomatch hunverified.symm.trans hverified

variable (hverified : account.emailVerified = true)

include hverified

theorem of_denied
    (hdenied : Password.verify password account.passwordHash = false ∨
      account.isActive = false) :
    result.1 = .error (.usual .invalidCredentials) := by
  cases hend with
  | denied => rfl
  | unverified hother hunverified =>
      obtain rfl := Option.some.inj (hfound.symm.trans hother)
      exact nomatch hunverified.symm.trans hverified
  | admitted hother _ hright hactive =>
      obtain rfl := Option.some.inj (hfound.symm.trans hother)
      rcases hdenied with hwrong | hinactive
      · exact nomatch hwrong.symm.trans hright
      · exact nomatch hinactive.symm.trans hactive

theorem of_admitted
    (hright : Password.verify password account.passwordHash = true)
    (hactive : account.isActive = true) :
    OpeningEnd service state account result := by
  cases hend with
  | denied hdenied =>
      exact nomatch hactive.symm.trans ((hdenied.of_found hfound).2 hright)
  | unverified hother hunverified =>
      obtain rfl := Option.some.inj (hfound.symm.trans hother)
      exact nomatch hunverified.symm.trans hverified
  | admitted hother _ _ _ hopening =>
      obtain rfl := Option.some.inj (hfound.symm.trans hother)
      exact hopening

end LoginEnd

variable (hundisturbed : state.disturbances = []) (service : Service)

include hundisturbed

theorem exec_opening (account : Account) (log : List Log.Line) (published : List Event) :
    OpeningEnd service state account
      (exec (service.opening account) { state with log, published }) := by
  unfold opening
  rw [exec_bind, exec_issue]
  dsimp only
  cases haccess : service.issuer.issue .access state.now state.tokenIds.next account.id
      (some account.email) with
  | error cause => exact .accessFails haccess
  | ok accessToken =>
      simp only [Except.mapError]
      rw [exec_bind, exec_issue]
      dsimp only
      cases hrefresh : service.issuer.issue .refresh state.now state.tokenIds.rest.next account.id
          (some account.email) with
      | error cause => exact .refreshFails haccess hrefresh
      | ok refreshToken =>
          obtain ⟨expires, hexpires, -⟩ := Token.Issuer.issue_eq_ok.mp hrefresh
          have hends : state.now.add? service.issuer.refreshTtl = some expires := hexpires
          simp only [Except.mapError]
          rw [exec_bind, exec_now]
          dsimp only
          rw [hends]
          dsimp only
          let issued : State :=
            { state with tokenIds := state.tokenIds.rest.rest, log, published }
          have hstore : issued.disturbances = [] := hundisturbed
          have hspared := Store.disturbance?_of_undisturbed hstore
          by_cases hfits : Store.fitsColumn account.id = true
          · cases hadd : state.database.addRecord? account.id refreshToken expires state.now with
            | none =>
                obtain ⟨log, hcreate⟩ := Store.exec_createRecord_taken hstore hfits hadd
                rw [exec_bind_error hcreate]
                exact .taken haccess hrefresh hadd
            | some row =>
                obtain ⟨id, added⟩ := row
                obtain ⟨log, hcreate⟩ := Store.exec_createRecord (hspared .createRecord) hfits hadd
                let stored : State := { issued with database := added, log }
                have hstamp := Store.exec_stampLogin (show stored.disturbances = [] from hstore) hfits
                rw [exec_bind_ok hcreate, exec_bind_ok hstamp]
                obtain ⟨log, published, hexec⟩ := (hushes_note _ _ _ _).exec_bind _
                rw [hexec]
                obtain ⟨log, published, hexec⟩ := (hushes_publish service _ _ _ _).exec_bind _
                rw [hexec, exec_pure]
                exact .opened haccess hrefresh hexpires hadd hfits
          · rw [exec_bind_error (Store.exec_createRecord_overflow hstore hfits refreshToken expires)]
            exact .unfit hfits

/-- A login ends in one of the ways that its checks lead to. -/
theorem exec_login (identifier password : String) :
    LoginEnd service state identifier password
      (exec (service.login identifier password) state) := by
  unfold login
  obtain ⟨log, published, hexec⟩ := (hushes_note .info .service "Login attempt" state).exec_bind _
  rw [hexec]
  have hspared : ({ state with log, published } : State).disturbance? .accountByIdentifier = none :=
    Store.disturbance?_of_undisturbed hundisturbed _
  obtain ⟨log, published, hexec⟩ :=
    (Store.hushes_accountByIdentifier hspared identifier).exec_bind _
  rw [hexec]
  dsimp only
  cases haccount : state.database.accountOf? identifier with
  | none =>
      obtain ⟨log, published, hexec⟩ :=
        (hushes_checkPassword password service.hasher.dummyHash _).exec_bind _
      rw [hexec]
      exact .denied (.unknown haccount)
  | some account =>
      dsimp only
      by_cases hverified : account.emailVerified = true
      · rw [if_neg (by simp [hverified])]
        obtain ⟨log, published, hexec⟩ :=
          (hushes_checkPassword password account.passwordHash _).exec_bind _
        rw [hexec]
        dsimp only
        by_cases hright : Password.verify password account.passwordHash = true
        · rw [if_neg (by simp [hright])]
          by_cases hactive : account.isActive = true
          · rw [if_neg (by simp [hactive])]
            exact .admitted haccount hverified hright hactive
              (exec_opening hundisturbed service account log published)
          · rw [Bool.not_eq_true] at hactive
            rw [if_pos (by simp [hactive])]
            exact .denied (.inactive haccount hverified hright hactive)
        · rw [Bool.not_eq_true] at hright
          rw [if_pos (by simp [hright])]
          exact .denied (.wrongPassword haccount hverified hright)
      · rw [Bool.not_eq_true] at hverified
        rw [if_pos (by simp [hverified])]
        exact .unverified haccount hverified

/-! ## Refreshes -/

omit hundisturbed in
theorem hushes_validateRefresh
    {token : String} {claims : Token.Claims}
    (hvalid : service.issuer.validate state.now .refresh token = .ok claims)
    (report : String → String) :
    Hushes (service.validateRefresh token report) state claims := by
  refine ⟨state.log, state.published, ?_⟩
  unfold validateRefresh validate
  rw [exec_tryCatch, exec_bind, exec_now]
  dsimp only
  rw [hvalid]
  rfl

omit hundisturbed in
/-- A token that counts as an access token is accepted without a look at the tables. -/
theorem exec_validateToken
    {token : String} {claims : Token.Claims}
    (hvalid : service.issuer.validate state.now .access token = .ok claims) :
    exec (service.validateToken token) state = (.ok claims, state) := by
  have haccess : exec (service.validate .access token) state = (.ok claims, state) := by
    unfold validate
    rw [exec_bind, exec_now]
    dsimp only
    rw [hvalid]
    rfl
  rw [validateToken, exec_tryCatch, haccess]

/-- A refresh that succeeds has drawn one id, for its access token. -/
theorem renewed_of_refresh
    {token : String} {session : Session} {later : State}
    (hrefresh : exec (service.refresh token) state = (.ok session, later)) :
    ∃ claims account accessToken,
      service.issuer.validate state.now .refresh token = .ok claims ∧
      state.database.account? claims.userId = some account ∧
      (state.database.liveRecord? token state.now).isSome = true ∧
      service.issuer.issue .access state.now state.tokenIds.next account.id
        (some account.email) = .ok accessToken ∧
      session = service.session account accessToken token ∧
      later.tokenIds = state.tokenIds.rest := by
  obtain ⟨⟨-, hrenewed⟩, -⟩ := (ends_renewal hundisturbed service token).apply
  rw [hrefresh] at hrenewed
  obtain ⟨account, claims, -, -, hvalid, haccount, hlive, -, -⟩ := hrenewed session rfl
  unfold refresh at hrefresh
  obtain ⟨log, published, hexec⟩ := (hushes_validateRefresh service hvalid _).exec_bind _
  rw [hexec] at hrefresh
  have hvalidated : ({ state with log, published } : State).disturbances = [] := hundisturbed
  by_cases hfits : Store.fitsColumn claims.userId = true
  · obtain ⟨log, published, hexec⟩ := (Store.hushes_accountById hvalidated hfits).exec_bind _
    rw [hexec] at hrefresh
    dsimp only at hrefresh
    rw [haccount] at hrefresh
    dsimp only at hrefresh
    have hfound : ({ state with log, published } : State).disturbances = [] := hundisturbed
    obtain ⟨log, published, hexec⟩ := (Store.hushes_liveRecord hfound token).exec_bind _
    rw [hexec] at hrefresh
    dsimp only at hrefresh
    have hkept : ¬ (state.database.liveRecord? token state.now).isNone = true := by
      rw [Option.isNone_iff_eq_none]
      exact Option.isSome_iff_ne_none.mp hlive
    rw [if_neg hkept, exec_bind, exec_issue] at hrefresh
    dsimp only at hrefresh
    cases haccess : service.issuer.issue .access state.now state.tokenIds.next account.id
        (some account.email) with
    | error cause =>
        rw [haccess] at hrefresh
        cases hrefresh
    | ok accessToken =>
        rw [haccess] at hrefresh
        cases hrefresh
        exact ⟨claims, account, accessToken, hvalid, haccount, hlive, haccess, rfl, rfl⟩
  · obtain ⟨last, hfails, -⟩ : Yields (Store.accountById claims.userId) _ _ _ :=
      Store.yields_overflow hvalidated hfits
    rw [exec_bind_error hfails] at hrefresh
    cases hrefresh

end Service

end AccountSessions
