import AccountSessions.Proofs.IssuedTokens
import AccountSessions.Proofs.StoreCalls
import AccountSessions.Proofs.Tables
import AccountSessions.Service.Operations

/-!
# What the operations of the service do

With an undisturbed store every operation either ends with a failure and leaves the
database alone, or makes its one change.  An event is published last, when nothing can
fail any more, so a failure publishes none.
-/

namespace AccountSessions.Service

open Operation

variable {state : State}

/-! ## Helpers of the operations -/

theorem isSome_of_not_isNone {α : Type} {found : Option α} (hfound : ¬ found.isNone = true) :
    found.isSome = true := by
  cases found with
  | none => exact absurd rfl hfound
  | some value => rfl

theorem announces_publish
    (service : Service) (name : EventName) (userId : Int) (note : EventNote) (state : State) :
    Announces (service.publish name userId note) state := by
  have hkept (event : Event) :
      Follows state state.database { state with published := state.published ++ [event] } :=
    ⟨rfl, rfl, rfl, rfl, rfl, Nat.le_refl _, Nat.le_refl _, List.prefix_rfl⟩
  unfold Announces publish
  rw [exec_bind, exec_now]
  cases service.publisher with
  | absent => exact ⟨state, rfl, .refl state⟩
  | recording => exact ⟨_, rfl, hkept _⟩
  | logging => exact ⟨_, rfl, follows_note _ state⟩
  | failing => exact ⟨_, rfl, (hkept _).trans (follows_note _ _)⟩

theorem yields_checkPassword (password stored : String) (state : State) :
    Yields (checkPassword password stored) state (.ok (Password.verify password stored))
      state.database := by
  unfold checkPassword
  by_cases hunusable : Password.judge password stored = .unusable
  · simp only [hunusable, if_true, Password.verify]
    exact yields_note_return _ _ _ _ state
  · simp only [hunusable, if_false]
    exact .pure _ state

theorem exec_issue (service : Service) (kind : Token.Kind) (account : Account) (state : State) :
    exec (service.issue kind account.holder) state =
      ((service.issuer.issue kind state.now state.tokenIds.next account.id
          (some account.email)).mapError .broken,
        { state with tokenIds := state.tokenIds.rest }) := by
  simp only [issue, Account.holder, exec_bind, exec_now, exec_drawTokenId]
  cases service.issuer.issue kind state.now state.tokenIds.next account.id
      (some account.email) with
  | ok token => rfl
  | error cause => rfl

theorem yields_issue (service : Service) (kind : Token.Kind) (account : Account) (state : State) :
    ∃ tokenId, state.tokenIds.Offers tokenId ∧
      Yields (service.issue kind account.holder) state
        ((service.issuer.issue kind state.now tokenId account.id (some account.email)).mapError
          .broken)
        state.database :=
  ⟨_, state.tokenIds.offers_next, _, exec_issue service kind account state,
    ⟨rfl, rfl, rfl, state.tokenIds.fixed_rest, state.tokenIds.text_rest,
      state.tokenIds.le_drawn_rest, Nat.le_refl _, List.prefix_rfl⟩, rfl⟩

theorem yields_validate (service : Service) (kind : Token.Kind) (token : String) (state : State) :
    Yields (service.validate kind token) state
      ((service.issuer.validate state.now kind token).mapError Token.Fault.toFailure)
      state.database := by
  unfold validate
  apply now_bind
  cases service.issuer.validate state.now kind token with
  | ok claims => exact .pure claims state
  | error fault =>
      cases fault with
      | broken cause => exact yields_breakDown cause state
      | rejected reason => exact yields_note_throw _ _ _ _ state

theorem yields_validateRefresh
    (service : Service) (token : String) (report : String → String) (state : State) :
    Yields (service.validateRefresh token report) state
      ((service.issuer.validate state.now .refresh token).mapError Token.Fault.toFailure)
      state.database := by
  have hvalidate := yields_validate service .refresh token state
  unfold validateRefresh
  cases hresult : service.issuer.validate state.now .refresh token with
  | ok claims =>
      rw [hresult] at hvalidate
      exact .tryCatch hvalidate
  | error fault =>
      rw [hresult] at hvalidate
      refine .tryCatch_error hvalidate ?_
      intro later hlater
      rw [← hlater.database]
      cases fault with
      | broken cause => exact .throw _ later
      | rejected reason => exact yields_note_throw _ _ _ _ later

/-! ## Operations -/

/-- The operation fails and leaves the database alone. -/
def Untouched {α : Type} (state : State) (outcome : Except Failure α) (database : Database) : Prop :=
  (∃ failure, outcome = .error failure) ∧ database = state.database

theorem Untouched.fails {α : Type} (failure : Failure) :
    Untouched state (.error failure : Except Failure α) state.database :=
  ⟨⟨failure, rfl⟩, rfl⟩

theorem exec_present (account : Account) (state : State) :
    exec (present (some account) >>= fun account => pure account.withoutHash) state =
      (.ok account.withoutHash, state) :=
  rfl

def Registered
    (state : State) (username email name : String) (outcome : Except Failure Account)
    (database : Database) : Prop :=
  ∃ hash id account,
    state.database.addAccount?
      { username := some username
        email := some email
        passwordHash := some hash
        name := some name
        emailVerified := false
        isActive := true } state.now = some (id, database) ∧
    database.account? id = some account ∧ outcome = .ok account.withoutHash

/-- The new account has an id that fits its column and a hash made of its password. -/
def Enlisted
    (service : Service) (state : State) (username email password name : String)
    (outcome : Except Failure Account) (database : Database) : Prop :=
  ∃ number hash id account,
    Password.hash service.hasher.rounds (Password.numberedSalt number) password = .ok hash ∧
    Store.fitsColumn id = true ∧
    state.database.addAccount?
      { username := some username
        email := some email
        passwordHash := some hash
        name := some name
        emailVerified := false
        isActive := true } state.now = some (id, database) ∧
    database.account? id = some account ∧ outcome = .ok account.withoutHash

/-- How a registration ends, in the order of its checks. -/
inductive RegistrationOutcome
    (service : Service) (state : State) (username email password name : String) :
    Except Failure Account → Database → Prop where
  | weak {violation : Password.Violation}
      (hweak : service.policy.check password = some violation) :
      RegistrationOutcome service state username email password name
        (.error (.refused (.ofPassword violation.rule.name violation.message))) state.database
  | taken (hpolicy : service.policy.check password = none)
      (htaken : state.database.isTaken username email = true) :
      RegistrationOutcome service state username email password name
        (.error (.usual .duplicateUser)) state.database
  | unhashed {number : Nat} {cause : Breakdown} (hpolicy : service.policy.check password = none)
      (hfree : state.database.isTaken username email = false)
      (hhash : Password.hash service.hasher.rounds (Password.numberedSalt number) password =
        .error cause) :
      RegistrationOutcome service state username email password name (.error (.broken cause))
        state.database
  | full (hpolicy : service.policy.check password = none)
      (hfree : state.database.isTaken username email = false)
      (hfull : Store.isFull state.database = true) :
      RegistrationOutcome service state username email password name
        (.error (.broken .databaseFailed)) state.database
  | enlisted {outcome : Except Failure Account} {database : Database}
      (hpolicy : service.policy.check password = none)
      (hroom : Store.isFull state.database = false)
      (henlisted : Enlisted service state username email password name outcome database) :
      RegistrationOutcome service state username email password name outcome database

theorem ends_registration_outcome
    (hundisturbed : state.disturbances = []) (service : Service)
    (username email password name : String) :
    Ends (service.register username email password name) state
      (RegistrationOutcome service state username email password name) := by
  unfold register
  refine .quiet (.refl state) (yields_note _ _ _ state) ?_
  intro later hlater
  have hstore := hlater.disturbances.trans hundisturbed
  dsimp only
  cases hpolicy : service.policy.check password with
  | some violation =>
      refine .quiet hlater (yields_note _ _ _ later) ?_
      intro last hlast
      exact .last hlast (.bind_error (.throw _ last)) (.weak hpolicy)
  | none =>
      dsimp only
      refine .quiet hlater (Store.yields_accountExists hstore username email) ?_
      intro checked hchecked
      rw [hlater.database]
      by_cases htaken : state.database.isTaken username email = true
      · rw [if_pos htaken]
        exact .last hchecked (yields_note_refuse _ _ _ _ checked _) (.taken hpolicy htaken)
      · rw [if_neg htaken]
        rw [Bool.not_eq_true] at htaken
        refine .quiet hchecked (yields_drawSalt checked) ?_
        intro salted hsalted
        have hhash := yields_ofBreakdown
          (Password.hash service.hasher.rounds (Password.numberedSalt checked.saltsDrawn) password)
          salted
        revert hhash
        cases hmade : Password.hash service.hasher.rounds
            (Password.numberedSalt checked.saltsDrawn) password with
        | error cause =>
            intro hhash
            exact .last hsalted (.bind_error hhash) (.unhashed hpolicy htaken hmade)
        | ok hash =>
            intro hhash
            refine .quiet hsalted hhash ?_
            intro hashed hhashed
            have hstore := hhashed.disturbances.trans hundisturbed
            by_cases hfull : Store.isFull hashed.database = true
            · rw [hhashed.database] at hfull
              exact .last hhashed
                (.bind_error (Store.yields_createAccount_full hstore (hhashed.database ▸ hfull)))
                (.full hpolicy htaken hfull)
            obtain ⟨id, added, hadd⟩ : ∃ id added, hashed.database.addAccount?
                { username := some username
                  email := some email
                  passwordHash := some hash
                  name := some name
                  emailVerified := false
                  isActive := true } hashed.now = some (id, added) := by
              simp [Database.addAccount?, hhashed.database, htaken]
            refine .bind hhashed (Store.yields_createAccount hstore hfull hadd) ?_
            intro stored hstored
            have hfits : Store.fitsColumn id = true := by
              rw [Database.id_of_addAccount? hadd]
              simpa [Store.isFull] using hfull
            have hstore := hstored.disturbances.trans hundisturbed
            refine .quiet hstored (Store.yields_accountById hstore hfits) ?_
            intro found hfound
            obtain ⟨account, haccount, -⟩ :=
              Database.exists_account? (Database.hasAccount_of_addAccount? hadd)
            rw [hhashed.database, hhashed.now] at hadd
            rw [hhashed.database, Bool.not_eq_true] at hfull
            rw [hstored.database, haccount]
            refine .quiet hfound (yields_note _ _ _ found) ?_
            intro noted hnoted
            exact .announce hnoted (announces_publish service _ _ _ noted)
              (exec_present account)
              (.enlisted hpolicy hfull ⟨_, hash, id, account, hmade, hfits, hadd, haccount, rfl⟩)

theorem ends_registration
    (hundisturbed : state.disturbances = []) (service : Service)
    (username email password name : String) :
    Ends (service.register username email password name) state fun outcome database =>
      Untouched state outcome database ∨
        Enlisted service state username email password name outcome database := by
  apply (ends_registration_outcome hundisturbed service username email password name).mono
  intro outcome database houtcome
  cases houtcome with
  | weak | taken | unhashed | full => exact .inl (.fails _)
  | enlisted _ _ henlisted => exact .inr henlisted

theorem ends_register
    (hundisturbed : state.disturbances = []) (service : Service)
    (username email password name : String) :
    Ends (service.register username email password name) state fun outcome database =>
      Untouched state outcome database ∨
        Registered state username email name outcome database := by
  apply (ends_registration hundisturbed service username email password name).mono
  rintro outcome database (huntouched | ⟨_, hash, id, account, -, -, hadd, hstored, houtcome⟩)
  · exact .inl huntouched
  · exact .inr ⟨hash, id, account, hadd, hstored, houtcome⟩

theorem ends_verification (hundisturbed : state.disturbances = []) (userId : Int) :
    Rests (verifyEmail userId) state fun outcome database =>
      ((Store.fitsColumn userId = true → state.database.hasAccount userId = false) ∧
        Untouched state outcome database) ∨
        ∃ account, (state.database.markVerified userId state.now).account? userId = some account ∧
          outcome = .ok account.withoutHash ∧
          database = state.database.markVerified userId state.now := by
  unfold verifyEmail
  by_cases hfits : Store.fitsColumn userId = true
  · refine .bind (.refl state) (Store.yields_markVerified hundisturbed hfits) ?_
    intro marked hmarked
    cases hhas : state.database.hasAccount userId with
    | false =>
        refine .last hmarked (.bind_error (yields_refuse _ marked))
          (.inl ⟨fun _ => rfl, ⟨_, rfl⟩, ?_⟩)
        exact Database.changeAccount_of_not_hasAccount hhas _
    | true =>
        refine .quiet hmarked (yields_note _ _ _ marked) ?_
        intro noted hnoted
        have hstore := hnoted.disturbances.trans hundisturbed
        refine .quiet hnoted (Store.yields_accountById hstore hfits) ?_
        intro found hfound
        have hmarkedHas : (state.database.markVerified userId state.now).hasAccount userId = true :=
          Database.hasAccount_changeAccount hhas fun _ => rfl
        obtain ⟨account, haccount, -⟩ := Database.exists_account? hmarkedHas
        rw [hnoted.database, haccount]
        exact .last hfound ⟨found, exec_present account found, .refl found⟩
          (.inr ⟨account, rfl, rfl, rfl⟩)
  · exact .last (.refl state) (.bind_error (Store.yields_overflow hundisturbed hfits))
      (.inl ⟨fun h => absurd h hfits, .fails _⟩)

theorem ends_verifyEmail (hundisturbed : state.disturbances = []) (userId : Int) :
    Rests (verifyEmail userId) state fun outcome database =>
      Untouched state outcome database ∨
        ∃ account, (state.database.markVerified userId state.now).account? userId = some account ∧
          outcome = .ok account.withoutHash ∧
          database = state.database.markVerified userId state.now := by
  apply (ends_verification hundisturbed userId).mono
  rintro outcome database (⟨-, huntouched⟩ | hmarked)
  · exact .inl huntouched
  · exact .inr hmarked

def LoggedIn
    (service : Service) (state : State) (account : Account) (outcome : Except Failure Session)
    (database : Database) : Prop :=
  ∃ accessToken tokenId refreshToken expires id added,
    Store.fitsColumn account.id = true ∧ state.tokenIds.Offers tokenId ∧
    service.issuer.issue .refresh state.now tokenId account.id (some account.email) =
      .ok refreshToken ∧
    state.now.add? service.issuer.refreshTtl = some expires ∧
    state.database.addRecord? account.id refreshToken expires state.now = some (id, added) ∧
    outcome = .ok (service.session { account with lastLoginAt := some state.now } accessToken
      refreshToken) ∧
    database = added.stampLogin account.id state.now

/-- What is left of a login when its checks have been passed. -/
def opening (service : Service) (account : Account) : Operation Session := do
  let accessToken ← service.issue .access account.holder
  let refreshToken ← service.issue .refresh account.holder
  match (← now).add? service.issuer.refreshTtl with
  | none => breakDown .dateOutOfRange
  | some expiresAt =>
    let _ ← Store.createRecord account.id refreshToken expiresAt
    let moment ← Store.stampLogin account.id none
    note .info .service ("Login successful" ++ (" user_id=" ++ toString account.id))
    service.publish .loggedIn account.id .nothing
    return service.session { account with lastLoginAt := some moment } accessToken refreshToken

theorem ends_opening
    (hundisturbed : state.disturbances = []) (service : Service) (account : Account)
    {middle : State} (hbefore : Leads state state.database middle) :
    Ends (service.opening account) middle fun outcome database =>
      Untouched state outcome database ∨ LoggedIn service state account outcome database := by
  unfold opening
  obtain ⟨accessId, -, haccess⟩ := yields_issue service .access account middle
  revert haccess
  cases service.issuer.issue .access middle.now accessId account.id (some account.email) with
  | error cause =>
      intro haccess
      exact .last hbefore (.bind_error haccess) (.inl (.fails _))
  | ok accessToken =>
      intro haccess
      refine .quiet hbefore haccess ?_
      intro opened hopened
      obtain ⟨tokenId, hoffers, hrefresh⟩ := yields_issue service .refresh account opened
      revert hrefresh
      cases hissue :
          service.issuer.issue .refresh opened.now tokenId account.id (some account.email) with
      | error cause =>
          intro hrefresh
          exact .last hopened (.bind_error hrefresh) (.inl (.fails _))
      | ok refreshToken =>
          intro hrefresh
          refine .quiet hopened hrefresh ?_
          intro issued hissued
          have hstore := hissued.disturbances.trans hundisturbed
          rw [hopened.now] at hissue
          refine .stay (exec_now issued) ?_
          rw [hissued.now]
          cases hexpires : state.now.add? service.issuer.refreshTtl with
          | none => exact .last hissued (yields_breakDown _ issued) (.inl (.fails _))
          | some expires =>
              dsimp only
              by_cases hfits : Store.fitsColumn account.id = true
              · cases hadd : issued.database.addRecord? account.id refreshToken expires
                    issued.now with
                | none =>
                    exact .last hissued
                      (.bind_error (Store.yields_createRecord_taken hstore hfits hadd))
                      (.inl (.fails _))
                | some row =>
                    obtain ⟨id, added⟩ := row
                    refine .bind hissued (Store.yields_createRecord hstore hfits hadd) ?_
                    intro stored hstored
                    rw [hissued.database, hissued.now] at hadd
                    have hstore := hstored.disturbances.trans hundisturbed
                    refine .bind hstored (Store.yields_stampLogin hstore hfits none) ?_
                    intro stamped hstamped
                    rw [hstored.database, hstored.now] at hstamped
                    refine .quiet hstamped (yields_note _ _ _ stamped) ?_
                    intro noted hnoted
                    refine .announce hnoted (announces_publish service _ _ _ noted)
                      (exec_pure _) (.inr ?_)
                    rw [hstored.now]
                    exact ⟨accessToken, tokenId, refreshToken, expires, id, added, hfits,
                      hopened.offers hoffers, hissue, hexpires, hadd, rfl, rfl⟩
              · exact .last hissued (.bind_error (Store.yields_overflow hstore hfits))
                  (.inl (.fails _))

/-- The reasons for which credentials are not good enough. -/
inductive Denied (db : Database) (identifier password : String) : Prop where
  | unknown (hunknown : db.accountOf? identifier = none)
  | wrongPassword {account : Account} (hfound : db.accountOf? identifier = some account)
      (hverified : account.emailVerified = true)
      (hwrong : Password.verify password account.passwordHash = false)
  | inactive {account : Account} (hfound : db.accountOf? identifier = some account)
      (hverified : account.emailVerified = true)
      (hright : Password.verify password account.passwordHash = true)
      (hinactive : account.isActive = false)

theorem Denied.of_found
    {db : Database} {identifier password : String} (hdenied : Denied db identifier password)
    {account : Account} (hfound : db.accountOf? identifier = some account) :
    account.emailVerified = true ∧
      (Password.verify password account.passwordHash = true → account.isActive = false) := by
  cases hdenied with
  | unknown hunknown =>
      rw [hunknown] at hfound
      cases hfound
  | wrongPassword hother hverified hwrong =>
      obtain rfl := Option.some.inj (hother.symm.trans hfound)
      refine ⟨hverified, fun hright => ?_⟩
      rw [hwrong] at hright
      cases hright
  | inactive hother hverified _ hinactive =>
      obtain rfl := Option.some.inj (hother.symm.trans hfound)
      exact ⟨hverified, fun _ => hinactive⟩

/-- How a login ends, in the order of its checks. -/
inductive LoginOutcome (service : Service) (state : State) (identifier password : String) :
    Except Failure Session → Database → Prop where
  | denied (hdenied : Denied state.database identifier password) :
      LoginOutcome service state identifier password (.error (.usual .invalidCredentials))
        state.database
  | unverified {account : Account} (hfound : state.database.accountOf? identifier = some account)
      (hunverified : account.emailVerified = false) :
      LoginOutcome service state identifier password (.error (.usual .emailNotVerified))
        state.database
  | admitted {account : Account} {outcome : Except Failure Session} {database : Database}
      (hfound : state.database.accountOf? identifier = some account)
      (hverified : account.emailVerified = true)
      (hright : Password.verify password account.passwordHash = true)
      (hactive : account.isActive = true)
      (hopened : Untouched state outcome database ∨
        LoggedIn service state account outcome database) :
      LoginOutcome service state identifier password outcome database

theorem ends_login_outcome
    (hundisturbed : state.disturbances = []) (service : Service) (identifier password : String) :
    Ends (service.login identifier password) state
      (LoginOutcome service state identifier password) := by
  unfold login
  refine .quiet (.refl state) (yields_note _ _ _ state) ?_
  intro noted hnoted
  have hstore := hnoted.disturbances.trans hundisturbed
  refine .quiet hnoted (Store.yields_accountByIdentifier hstore identifier) ?_
  intro found hfound
  rw [hnoted.database]
  cases haccount : state.database.accountOf? identifier with
  | none =>
      refine .quiet hfound (yields_checkPassword password service.hasher.dummyHash found) ?_
      intro checked hchecked
      refine .quiet hchecked (yields_note _ _ _ checked) ?_
      intro last hlast
      exact .last hlast (yields_refuse _ last) (.denied (.unknown haccount))
  | some account =>
      dsimp only
      by_cases hverified : account.emailVerified = true
      · rw [if_neg (by simp [hverified])]
        refine .quiet hfound (yields_checkPassword password account.passwordHash found) ?_
        intro checked hchecked
        by_cases hright : Password.verify password account.passwordHash = true
        · rw [if_neg (by simp [hright])]
          by_cases hactive : account.isActive = true
          · rw [if_neg (by simp [hactive])]
            exact (ends_opening hundisturbed service account hchecked).mono
              fun _ _ => .admitted haccount hverified hright hactive
          · rw [Bool.not_eq_true] at hactive
            rw [if_pos (by simp [hactive])]
            exact .last hchecked (yields_note_refuse _ _ _ _ checked _)
              (.denied (.inactive haccount hverified hright hactive))
        · rw [Bool.not_eq_true] at hright
          rw [if_pos (by simp [hright])]
          exact .last hchecked (yields_note_refuse _ _ _ _ checked _)
            (.denied (.wrongPassword haccount hverified hright))
      · rw [Bool.not_eq_true] at hverified
        rw [if_pos (by simp [hverified])]
        exact .last hfound (yields_note_refuse _ _ _ _ found _) (.unverified haccount hverified)

theorem ends_login
    (hundisturbed : state.disturbances = []) (service : Service) (identifier password : String) :
    Ends (service.login identifier password) state fun outcome database =>
      Untouched state outcome database ∨
        ∃ account, state.database.accountOf? identifier = some account ∧
          account.emailVerified = true ∧ account.isActive = true ∧
          LoggedIn service state account outcome database := by
  apply (ends_login_outcome hundisturbed service identifier password).mono
  intro outcome database houtcome
  cases houtcome with
  | denied => exact .inl (.fails _)
  | unverified => exact .inl (.fails _)
  | admitted hfound hverified _ hactive hopened =>
      exact hopened.imp_right fun hopened => ⟨_, hfound, hverified, hactive, hopened⟩

/-! ## Sessions in use -/

def Renewed
    (service : Service) (state : State) (token : String) (account : Account) (session : Session) :
    Prop :=
  ∃ claims tokenId accessToken,
    service.issuer.validate state.now .refresh token = .ok claims ∧
    state.database.account? claims.userId = some account ∧
    (state.database.liveRecord? token state.now).isSome = true ∧
    service.issuer.issue .access state.now tokenId account.id (some account.email) =
      .ok accessToken ∧
    session = service.session account accessToken token

/-- How a refresh ends, in the order of its checks. -/
inductive RefreshOutcome (service : Service) (state : State) (token : String) :
    Except Failure Session → Prop where
  | rejected {fault : Token.Fault}
      (hinvalid : service.issuer.validate state.now .refresh token = .error fault) :
      RefreshOutcome service state token (.error fault.toFailure)
  | overflow {claims : Token.Claims}
      (hvalid : service.issuer.validate state.now .refresh token = .ok claims)
      (hfits : ¬ Store.fitsColumn claims.userId = true) :
      RefreshOutcome service state token (.error (.broken .columnOverflow))
  | unknown {claims : Token.Claims}
      (hvalid : service.issuer.validate state.now .refresh token = .ok claims)
      (hunknown : state.database.account? claims.userId = none) :
      RefreshOutcome service state token (.error (.usual .userNotFound))
  | dead {claims : Token.Claims} {account : Account}
      (hvalid : service.issuer.validate state.now .refresh token = .ok claims)
      (haccount : state.database.account? claims.userId = some account)
      (hdead : (state.database.liveRecord? token state.now).isNone = true) :
      RefreshOutcome service state token (.error (.usual .sessionNotLive))
  | renewed {claims : Token.Claims} {account : Account} (tokenId : String)
      (hvalid : service.issuer.validate state.now .refresh token = .ok claims)
      (haccount : state.database.account? claims.userId = some account)
      (hlive : (state.database.liveRecord? token state.now).isSome = true) :
      RefreshOutcome service state token
        (((service.issuer.issue .access state.now tokenId account.id (some account.email)).mapError
          Failure.broken).map fun accessToken => service.session account accessToken token)

/-- With a token in order and its user found, only the record of the token matters. -/
theorem RefreshOutcome.of_found
    {service : Service} {token : String} {outcome : Except Failure Session}
    (houtcome : RefreshOutcome service state token outcome) {claims : Token.Claims}
    {account : Account} (hvalid : service.issuer.validate state.now .refresh token = .ok claims)
    (hfits : Store.fitsColumn claims.userId = true)
    (haccount : state.database.account? claims.userId = some account) :
    ((state.database.liveRecord? token state.now).isSome = false ∧
      outcome = .error (.usual .sessionNotLive)) ∨
    ((state.database.liveRecord? token state.now).isSome = true ∧ ∃ tokenId,
      outcome = ((service.issuer.issue .access state.now tokenId account.id
        (some account.email)).mapError Failure.broken).map
          fun accessToken => service.session account accessToken token) := by
  cases houtcome with
  | rejected hinvalid =>
      rw [hvalid] at hinvalid
      cases hinvalid
  | overflow hother hoverflow =>
      obtain rfl := Except.ok.inj (hvalid.symm.trans hother)
      exact absurd hfits hoverflow
  | unknown hother hunknown =>
      obtain rfl := Except.ok.inj (hvalid.symm.trans hother)
      rw [haccount] at hunknown
      cases hunknown
  | dead _ _ hdead => exact .inl ⟨by simpa using hdead, rfl⟩
  | renewed tokenId hother hfound hlive =>
      obtain rfl := Except.ok.inj (hvalid.symm.trans hother)
      obtain rfl := Option.some.inj (haccount.symm.trans hfound)
      exact .inr ⟨hlive, tokenId, rfl⟩

theorem rests_refresh
    (hundisturbed : state.disturbances = []) (service : Service) (token : String) :
    Rests (service.refresh token) state fun outcome database =>
      database = state.database ∧ RefreshOutcome service state token outcome := by
  have hvalidate := yields_validateRefresh service token ("Refresh rejected: " ++ ·) state
  unfold refresh
  revert hvalidate
  cases hresult : service.issuer.validate state.now .refresh token with
  | error fault =>
      intro hvalidate
      exact .last (.refl state) (.bind_error hvalidate) ⟨rfl, .rejected hresult⟩
  | ok claims =>
      intro hvalidate
      refine .quiet (.refl state) hvalidate ?_
      intro valid hvalid
      have hstore := hvalid.disturbances.trans hundisturbed
      by_cases hfits : Store.fitsColumn claims.userId = true
      · refine .quiet hvalid (Store.yields_accountById hstore hfits) ?_
        intro found hfound
        have hstore := hfound.disturbances.trans hundisturbed
        rw [hvalid.database]
        cases haccount : state.database.account? claims.userId with
        | none =>
            refine .quiet hfound (yields_note _ _ _ found) ?_
            intro last hlast
            exact .last hlast (yields_refuse _ last) ⟨rfl, .unknown hresult haccount⟩
        | some account =>
            dsimp only
            refine .quiet hfound (Store.yields_liveRecord hstore token) ?_
            intro checked hchecked
            rw [hfound.database, hfound.now]
            by_cases hdead : (state.database.liveRecord? token state.now).isNone = true
            · rw [if_pos hdead]
              exact .last hchecked (yields_note_refuse _ _ _ _ checked _)
                ⟨rfl, .dead hresult haccount hdead⟩
            · rw [if_neg hdead]
              obtain ⟨tokenId, -, hissue⟩ := yields_issue service .access account checked
              have hrenewed := RefreshOutcome.renewed tokenId hresult haccount
                (isSome_of_not_isNone hdead)
              rw [hchecked.now] at hissue
              revert hissue hrenewed
              cases service.issuer.issue .access state.now tokenId account.id
                  (some account.email) with
              | error cause =>
                  intro hissue hrenewed
                  exact .last hchecked (.bind_error hissue) ⟨rfl, hrenewed⟩
              | ok accessToken =>
                  intro hissue hrenewed
                  refine .quiet hchecked hissue ?_
                  intro issued hissued
                  exact .last hissued (yields_note_return _ _ _ _ issued) ⟨rfl, hrenewed⟩
      · exact .last hvalid (.bind_error (Store.yields_overflow hstore hfits))
          ⟨rfl, .overflow hresult hfits⟩

theorem ends_renewal
    (hundisturbed : state.disturbances = []) (service : Service) (token : String) :
    Rests (service.refresh token) state fun outcome database =>
      database = state.database ∧
        ∀ session, outcome = .ok session → ∃ account, Renewed service state token account session := by
  apply (rests_refresh hundisturbed service token).mono
  rintro outcome database ⟨rfl, houtcome⟩
  refine ⟨rfl, ?_⟩
  intro session hsession
  cases houtcome with
  | rejected | overflow | unknown | dead => cases hsession
  | @renewed claims account tokenId hvalid haccount hlive =>
      cases hissue : service.issuer.issue .access state.now tokenId account.id
          (some account.email) with
      | error cause =>
          rw [hissue] at hsession
          cases hsession
      | ok accessToken =>
          rw [hissue] at hsession
          exact ⟨account, claims, tokenId, accessToken, hvalid, haccount, hlive, hissue,
            (Except.ok.inj hsession).symm⟩

theorem ends_refresh
    (hundisturbed : state.disturbances = []) (service : Service) (token : String) :
    Rests (service.refresh token) state fun outcome database =>
      database = state.database ∧
        ∀ session, outcome = .ok session →
          ∃ claims account, service.issuer.validate state.now .refresh token = .ok claims ∧
            state.database.account? claims.userId = some account ∧
            (state.database.liveRecord? token state.now).isSome = true ∧
            session.account.id = account.id := by
  apply (ends_renewal hundisturbed service token).mono
  rintro outcome database ⟨rfl, hrenewed⟩
  refine ⟨rfl, ?_⟩
  intro session hsession
  obtain ⟨account, claims, tokenId, accessToken, hvalid, haccount, hlive, -, rfl⟩ :=
    hrenewed session hsession
  exact ⟨claims, account, hvalid, haccount, hlive, rfl⟩

theorem yields_refresh
    (hundisturbed : state.disturbances = []) {service : Service} {token : String}
    {claims : Token.Claims} {account : Account}
    (hvalid : service.issuer.validate state.now .refresh token = .ok claims)
    (hfits : Store.fitsColumn claims.userId = true)
    (haccount : state.database.account? claims.userId = some account)
    (hlive : (state.database.liveRecord? token state.now).isSome = true)
    (hissues : ∀ tokenId, ∃ accessToken,
      service.issuer.issue .access state.now tokenId account.id (some account.email) =
        .ok accessToken) :
    ∃ session, Yields (service.refresh token) state (.ok session) state.database ∧
      session.account.id = account.id := by
  obtain ⟨outcome, _, hyields, rfl, houtcome⟩ := (rests_refresh hundisturbed service token).yields
  rcases houtcome.of_found hvalid hfits haccount with ⟨hdead, -⟩ | ⟨-, tokenId, rfl⟩
  · rw [hlive] at hdead
    cases hdead
  · obtain ⟨accessToken, haccess⟩ := hissues tokenId
    rw [haccess] at hyields
    exact ⟨_, hyields, rfl⟩

/-- How a logout ends, in the order of its checks. -/
inductive LogoutOutcome (service : Service) (state : State) (userId : Int) (token : String) :
    Except Failure Unit → Database → Prop where
  | rejected {fault : Token.Fault}
      (hinvalid : service.issuer.validate state.now .refresh token = .error fault) :
      LogoutOutcome service state userId token (.error fault.toFailure) state.database
  | foreign {claims : Token.Claims}
      (hvalid : service.issuer.validate state.now .refresh token = .ok claims)
      (hother : claims.userId ≠ userId) :
      LogoutOutcome service state userId token (.error (.usual .permissionDenied)) state.database
  | closed {claims : Token.Claims}
      (hvalid : service.issuer.validate state.now .refresh token = .ok claims)
      (howner : claims.userId = userId)
      (hclosed : state.database.countOpen (·.token == token) = 0) :
      LogoutOutcome service state userId token (.error (.usual .sessionNotLive)) state.database
  | revoked {claims : Token.Claims}
      (hvalid : service.issuer.validate state.now .refresh token = .ok claims)
      (howner : claims.userId = userId)
      (hopen : state.database.countOpen (·.token == token) ≠ 0) :
      LogoutOutcome service state userId token (.ok ())
        (state.database.revokeWhere (·.token == token) state.now)

theorem ends_logout_outcome
    (hundisturbed : state.disturbances = []) (service : Service) (userId : Int) (token : String) :
    Ends (service.logout userId token) state (LogoutOutcome service state userId token) := by
  unfold logout
  dsimp only
  have hvalidate := yields_validateRefresh service token
    (fun reason => "Logout rejected: " ++ reason ++ (" user_id=" ++ toString userId)) state
  revert hvalidate
  cases hresult : service.issuer.validate state.now .refresh token with
  | error fault =>
      intro hvalidate
      exact .last (.refl state) (.bind_error hvalidate) (.rejected hresult)
  | ok claims =>
      intro hvalidate
      refine .quiet (.refl state) hvalidate ?_
      intro valid hvalid
      have hstore := hvalid.disturbances.trans hundisturbed
      by_cases hother : claims.userId ≠ userId
      · rw [if_pos hother]
        exact .last hvalid (yields_note_refuse _ _ _ _ valid _) (.foreign hresult hother)
      · rw [if_neg hother]
        have howner := Decidable.not_not.mp hother
        by_cases hopen : valid.database.countOpen (·.token == token) = 0
        · refine .quiet hvalid (Store.yields_revokeRecord_none hstore hopen) ?_
          intro revoked hrevoked
          have hstore := hrevoked.disturbances.trans hundisturbed
          refine .quiet hrevoked (Store.yields_findRecord hstore token) ?_
          intro found hfound
          rw [hvalid.database] at hopen
          cases revoked.database.record? token with
          | none =>
              exact .last hfound (yields_note_refuse _ _ _ _ found _) (.closed hresult howner hopen)
          | some record =>
              exact .last hfound (yields_note_refuse _ _ _ _ found _) (.closed hresult howner hopen)
        · refine .bind hvalid (Store.yields_revokeRecord hstore hopen) ?_
          intro revoked hrevoked
          rw [hvalid.database, hvalid.now] at hrevoked
          rw [hvalid.database] at hopen
          refine .quiet hrevoked (yields_note _ _ _ revoked) ?_
          intro noted hnoted
          exact .announce_last hnoted (announces_publish service _ _ _ noted)
            (.revoked hresult howner hopen)

theorem ends_logout
    (hundisturbed : state.disturbances = []) (service : Service) (userId : Int) (token : String) :
    Ends (service.logout userId token) state fun outcome database =>
      Untouched state outcome database ∨
        ∃ claims, service.issuer.validate state.now .refresh token = .ok claims ∧
          claims.userId = userId ∧ state.database.countOpen (·.token == token) ≠ 0 ∧
          outcome = .ok () ∧ database = state.database.revokeWhere (·.token == token) state.now := by
  apply (ends_logout_outcome hundisturbed service userId token).mono
  intro outcome database houtcome
  cases houtcome with
  | rejected | foreign | closed => exact .inl (.fails _)
  | revoked hvalid howner hopen => exact .inr ⟨_, hvalid, howner, hopen, rfl, rfl⟩

theorem ends_logoutAll
    (hundisturbed : state.disturbances = []) (service : Service) (userId : Int) :
    Ends (service.logoutAll userId) state fun outcome database =>
      (¬ Store.fitsColumn userId = true ∧ Untouched state outcome database) ∨
        outcome = .ok (state.database.countOpen (·.userId == userId)) ∧
          database = state.database.revokeWhere (·.userId == userId) state.now := by
  unfold logoutAll
  by_cases hfits : Store.fitsColumn userId = true
  · refine .bind (.refl state) (Store.yields_revokeAllRecords hundisturbed hfits) ?_
    intro revoked hrevoked
    exact .announce hrevoked (announces_publish service _ _ _ revoked) (exec_pure _)
      (.inr ⟨rfl, rfl⟩)
  · exact .last (.refl state) (.bind_error (Store.yields_overflow hundisturbed hfits))
      (.inl ⟨hfits, .fails _⟩)

/-! ## Administration -/

theorem ends_deactivate (hundisturbed : state.disturbances = []) (userId : Int) :
    Rests (deactivate userId) state fun outcome database =>
      ((Store.fitsColumn userId = true → state.database.hasAccount userId = false) ∧
        Untouched state outcome database) ∨
        outcome = .ok (state.database.countOpen (·.userId == userId)) ∧
          database = (state.database.setActive userId false state.now).revokeWhere
            (·.userId == userId) state.now := by
  unfold deactivate
  by_cases hfits : Store.fitsColumn userId = true
  · refine .bind (.refl state) (Store.yields_setActive hundisturbed hfits false) ?_
    intro changed hchanged
    cases hhas : state.database.hasAccount userId with
    | false =>
        refine .last hchanged (.bind_error (yields_refuse _ changed)) (.inl ⟨fun _ => rfl, ⟨_, rfl⟩, ?_⟩)
        exact Database.changeAccount_of_not_hasAccount hhas _
    | true =>
        have hstore := hchanged.disturbances.trans hundisturbed
        refine .bind hchanged (Store.yields_revokeAllRecords hstore hfits) ?_
        intro revoked hrevoked
        rw [hchanged.database, hchanged.now] at hrevoked
        rw [hchanged.database]
        exact .last hrevoked (yields_note_return _ _ _ _ revoked) (.inr ⟨rfl, rfl⟩)
  · exact .last (.refl state) (.bind_error (Store.yields_overflow hundisturbed hfits))
      (.inl ⟨fun h => absurd h hfits, .fails _⟩)

theorem ends_activate (hundisturbed : state.disturbances = []) (userId : Int) :
    Rests (activate userId) state fun outcome database =>
      Untouched state outcome database ∨
        state.database.hasAccount userId = true ∧ outcome = .ok () ∧
          database = state.database.setActive userId true state.now := by
  unfold activate
  by_cases hfits : Store.fitsColumn userId = true
  · refine .bind (.refl state) (Store.yields_setActive hundisturbed hfits true) ?_
    intro changed hchanged
    cases hhas : state.database.hasAccount userId with
    | false =>
        refine .last hchanged (.bind_error (yields_refuse _ changed)) (.inl ⟨⟨_, rfl⟩, ?_⟩)
        exact Database.changeAccount_of_not_hasAccount hhas _
    | true => exact .last hchanged (yields_note _ _ _ changed) (.inr ⟨rfl, rfl, rfl⟩)
  · exact .last (.refl state) (.bind_error (Store.yields_overflow hundisturbed hfits))
      (.inl (.fails _))

theorem ends_listSessions (hundisturbed : state.disturbances = []) (userId : Int) :
    Rests (listSessions userId) state fun _ database => database = state.database := by
  by_cases hfits : Store.fitsColumn userId = true
  · exact .last (.refl state) (Store.yields_listRecords hundisturbed hfits) rfl
  · exact .last (.refl state) (Store.yields_overflow hundisturbed hfits) rfl

theorem ends_purge (hundisturbed : state.disturbances = []) :
    Rests purge state fun outcome database =>
      outcome = .ok (state.database.countSpent state.now) ∧
        database = state.database.sweep state.now :=
  (Store.yields_sweepRecords hundisturbed).endsBy ⟨rfl, rfl⟩

/-! ## Bearer tokens -/

/-- How the check of a bearer token ends.  Whether it is a refresh token is only asked when
it is refused as an access token. -/
inductive BearerOutcome (service : Service) (state : State) (token : String) :
    Except Failure Token.Claims → Prop where
  | access {claims : Token.Claims}
      (hvalid : service.issuer.validate state.now .access token = .ok claims) :
      BearerOutcome service state token (.ok claims)
  | broken {cause : Breakdown}
      (hbroken : service.issuer.validate state.now .access token = .error (.broken cause)) :
      BearerOutcome service state token (.error (.broken cause))
  | rejected {fault : Token.Fault} (hother : service.issuer.Rejects state.now .access token)
      (hinvalid : service.issuer.validate state.now .refresh token = .error fault) :
      BearerOutcome service state token (.error fault.toFailure)
  | dead {claims : Token.Claims} (hother : service.issuer.Rejects state.now .access token)
      (hvalid : service.issuer.validate state.now .refresh token = .ok claims)
      (hdead : (state.database.liveRecord? token state.now).isNone = true) :
      BearerOutcome service state token
        (.error (Token.Fault.rejected .noLiveSession).toFailure)
  | refresh {claims : Token.Claims} (hother : service.issuer.Rejects state.now .access token)
      (hvalid : service.issuer.validate state.now .refresh token = .ok claims)
      (hlive : (state.database.liveRecord? token state.now).isSome = true) :
      BearerOutcome service state token (.ok claims)

theorem BearerOutcome.of_refresh
    {service : Service} {token : String} {outcome : Except Failure Token.Claims}
    (houtcome : BearerOutcome service state token outcome) {claims : Token.Claims}
    (hother : service.issuer.Rejects state.now .access token)
    (hvalid : service.issuer.validate state.now .refresh token = .ok claims) :
    ((state.database.liveRecord? token state.now).isSome = false ∧
      outcome = .error (Token.Fault.rejected .noLiveSession).toFailure) ∨
    ((state.database.liveRecord? token state.now).isSome = true ∧ outcome = .ok claims) := by
  obtain ⟨reason, hreason⟩ := hother
  cases houtcome with
  | access haccess =>
      rw [hreason] at haccess
      cases haccess
  | broken hbroken =>
      rw [hreason] at hbroken
      cases hbroken
  | rejected _ hinvalid =>
      rw [hvalid] at hinvalid
      cases hinvalid
  | dead _ _ hdead => exact .inl ⟨by simpa using hdead, rfl⟩
  | refresh _ hfound hlive =>
      obtain rfl := Except.ok.inj (hvalid.symm.trans hfound)
      exact .inr ⟨hlive, rfl⟩

theorem rests_validateToken
    (hundisturbed : state.disturbances = []) (service : Service) (token : String) :
    Rests (service.validateToken token) state fun outcome database =>
      database = state.database ∧ BearerOutcome service state token outcome := by
  have haccess := yields_validate service .access token state
  unfold validateToken
  revert haccess
  cases hresult : service.issuer.validate state.now .access token with
  | ok claims =>
      intro haccess
      exact .last (.refl state) (.tryCatch haccess) ⟨rfl, .access hresult⟩
  | error fault =>
      intro haccess
      refine .tryCatch_error (.refl state) haccess ?_
      intro failed hfailed
      cases fault with
      | broken cause => exact .last hfailed (yields_breakDown _ failed) ⟨rfl, .broken hresult⟩
      | rejected reason =>
          have hrefresh := yields_validate service .refresh token failed
          rw [hfailed.now] at hrefresh
          dsimp only [Token.Fault.toFailure]
          revert hrefresh
          cases hsecond : service.issuer.validate state.now .refresh token with
          | error fault =>
              intro hrefresh
              exact .last hfailed (.bind_error hrefresh) ⟨rfl, .rejected ⟨_, hresult⟩ hsecond⟩
          | ok claims =>
              intro hrefresh
              refine .quiet hfailed hrefresh ?_
              intro valid hvalid
              have hstore := hvalid.disturbances.trans hundisturbed
              refine .quiet hvalid (Store.yields_liveRecord hstore token) ?_
              intro checked hchecked
              rw [hvalid.database, hvalid.now]
              by_cases hdead : (state.database.liveRecord? token state.now).isNone = true
              · rw [if_pos hdead]
                exact .last hchecked (.bind_error (.throw _ checked))
                  ⟨rfl, .dead ⟨_, hresult⟩ hsecond hdead⟩
              · rw [if_neg hdead]
                exact .last hchecked (.pure claims checked)
                  ⟨rfl, .refresh ⟨_, hresult⟩ hsecond (isSome_of_not_isNone hdead)⟩

theorem ends_validateToken
    (hundisturbed : state.disturbances = []) (service : Service) (token : String) :
    Rests (service.validateToken token) state fun outcome database =>
      database = state.database ∧
        ∀ claims, outcome = .ok claims →
          service.issuer.validate state.now .access token = .ok claims ∨
            service.issuer.validate state.now .refresh token = .ok claims ∧
              (state.database.liveRecord? token state.now).isSome = true := by
  apply (rests_validateToken hundisturbed service token).mono
  rintro outcome database ⟨rfl, houtcome⟩
  refine ⟨rfl, ?_⟩
  rintro claims rfl
  cases houtcome with
  | access hvalid => exact .inl hvalid
  | refresh _ hvalid hlive => exact .inr ⟨hvalid, hlive⟩

theorem yields_validateToken
    (hundisturbed : state.disturbances = []) {service : Service} {token : String}
    {claims : Token.Claims} (hother : service.issuer.Rejects state.now .access token)
    (hvalid : service.issuer.validate state.now .refresh token = .ok claims)
    (hlive : (state.database.liveRecord? token state.now).isSome = true) :
    Yields (service.validateToken token) state (.ok claims) state.database := by
  obtain ⟨outcome, _, hyields, rfl, houtcome⟩ :=
    (rests_validateToken hundisturbed service token).yields
  rcases houtcome.of_refresh hother hvalid with ⟨hdead, -⟩ | ⟨-, rfl⟩
  · rw [hlive] at hdead
    cases hdead
  · exact hyields

end AccountSessions.Service
