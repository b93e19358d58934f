import AccountSessions.Proofs.AcceptedSettings
import AccountSessions.Proofs.ReachedStates

/-!
# What a registration decides

The policy comes first, then the names.  The question whether a name is taken has the
same answer as the unique columns of the table, so an insertion is never refused after
it.  A service that was built of accepted settings can hash every password that its
policy lets through, since the settings hold the policy below the limit of the hash.  So
a new account is refused for its password or for its names and for nothing else, as long
as there are ids left.
-/

namespace AccountSessions

/-! ## Passwords -/

theorem Password.Policy.length_le_of_check
    {policy : Policy} {password : String} (haccepts : policy.check password = none) :
    ((Text.Utf8.encode password.toList).length : Int) ≤ policy.maxLength := by
  unfold check at haccepts
  dsimp only at haccepts
  split at haccepts
  · cases haccepts
  · split at haccepts
    · cases haccepts
    next hshort => exact Int.not_lt.mp hshort

/-- The settings hold the policy below the limit of the hash. -/
theorem Settings.Accepted.exists_hash
    {settings : Settings} (haccepted : settings.Accepted) {password : String}
    (haccepts : settings.policy.check password = none) (salt : String) :
    ∃ hash, Password.hash settings.bcryptRounds salt password = .ok hash := by
  have hlength := Password.Policy.length_le_of_check haccepts
  have hlimit : settings.policy.maxLength ≤ 72 := haccepted.maxLength
  have hshort : (Text.Utf8.encode password.toList).length ≤ Password.Bcrypt.passwordLimit := by
    unfold Password.Bcrypt.passwordLimit
    omega
  exact Password.exists_hash haccepted.leastRounds haccepted.greatestRounds hshort salt

/-! ## Names -/

namespace Database

variable {db : Database} {username email : String}

theorem isTaken_eq_true_iff :
    db.isTaken username email = true ↔
      ∃ account ∈ db.accounts, account.username = username ∨ account.email = email := by
  simp [isTaken, Account.clashes]

/-- A name is free if the column stays unique with it. -/
theorem Integral.isTaken_eq_false_iff (hintegral : db.Integral) :
    db.isTaken username email = false ↔
      (username :: db.accounts.map (·.username)).Nodup ∧
        (email :: db.accounts.map (·.email)).Nodup := by
  rw [← Bool.not_eq_true, isTaken_eq_true_iff, List.nodup_cons, List.nodup_cons]
  constructor
  · intro hfree
    refine ⟨⟨?_, hintegral.usernames⟩, ?_, hintegral.emails⟩
    · intro hmem
      obtain ⟨account, haccount, hname⟩ := List.mem_map.mp hmem
      exact hfree ⟨account, haccount, .inl hname⟩
    · intro hmem
      obtain ⟨account, haccount, hname⟩ := List.mem_map.mp hmem
      exact hfree ⟨account, haccount, .inr hname⟩
  · rintro ⟨⟨husername, -⟩, hemail, -⟩ ⟨account, haccount, hname | hname⟩
    · exact husername (List.mem_map.mpr ⟨account, haccount, hname⟩)
    · exact hemail (List.mem_map.mpr ⟨account, haccount, hname⟩)

theorem account?_concat
    {row : Account} (hgreater : ∀ old ∈ db.accounts, old.id < row.id) :
    ({ db with accounts := db.accounts ++ [row] } : Database).account? row.id = some row := by
  have hnone : db.accounts.find? (·.id == row.id) = none :=
    List.find?_eq_none.mpr fun old hold => by simpa using Int.ne_of_lt (hgreater old hold)
  rw [account?, List.find?_append, hnone, Option.none_or]
  simp

end Database

/-- The question whether a name is taken and the unique columns agree on the names. -/
structure NamesAgree (state : State) (username email : String) : Prop where
  asked : (exec (Store.accountExists username email) state).1 = .ok true ↔
    ∃ account ∈ state.database.accounts, account.username = username ∨ account.email = email
  unique : (exec (Store.accountExists username email) state).1 = .ok false ↔
    (username :: state.database.accounts.map (·.username)).Nodup ∧
      (email :: state.database.accounts.map (·.email)).Nodup
  accepted : (exec (Store.accountExists username email) state).1 = .ok false →
    ∀ hash name emailVerified isActive,
      (exec (Store.createAccount
        { username := some username, email := some email, passwordHash := some hash
          name := some name, emailVerified, isActive }) state).1 ≠ .error (.usual .duplicateUser)
  refused : (exec (Store.accountExists username email) state).1 = .ok true →
    state.database.accounts.length < Database.greatestId →
    ∀ hash name emailVerified isActive,
      (exec (Store.createAccount
        { username := some username, email := some email, passwordHash := some hash
          name := some name, emailVerified, isActive }) state).1 = .error (.usual .duplicateUser)

theorem namesAgree
    {state : State} (hundisturbed : state.disturbances = [])
    (hintegral : state.database.Integral) (hconsecutive : state.database.Consecutive)
    (username email : String) :
    NamesAgree state username email where
  asked := by
    rw [Store.exec_accountExists hundisturbed, Except.ok.injEq, Database.isTaken_eq_true_iff]
  unique := by
    rw [Store.exec_accountExists hundisturbed, Except.ok.injEq, hintegral.isTaken_eq_false_iff]
  accepted := by
    rw [Store.exec_accountExists hundisturbed, Except.ok.injEq]
    intro hfree hash name emailVerified isActive hrefused
    by_cases hfull : Store.isFull state.database = true
    · obtain ⟨later, hexec, -⟩ := Store.yields_createAccount_full hundisturbed hfull
      rw [hexec] at hrefused
      cases hrefused
    · obtain ⟨id, added, hadd⟩ : ∃ id added, state.database.addAccount?
          { username := some username, email := some email, passwordHash := some hash
            name := some name, emailVerified, isActive } state.now = some (id, added) := by
        simp [Database.addAccount?, hfree]
      obtain ⟨later, hexec, -⟩ := Store.yields_createAccount hundisturbed hfull hadd
      rw [hexec] at hrefused
      cases hrefused
  refused := by
    rw [Store.exec_accountExists hundisturbed, Except.ok.injEq]
    intro htaken hroom hash name emailVerified isActive
    have hspace : ¬ Store.isFull state.database = true := by
      rw [hconsecutive.isFull_eq_false_iff.mpr hroom]
      exact Bool.false_ne_true
    have hadd : state.database.addAccount?
        { username := some username, email := some email, passwordHash := some hash
          name := some name, emailVerified, isActive } state.now = none := by
      simp [Database.addAccount?, htaken]
    obtain ⟨later, hexec, -⟩ := Store.yields_createAccount_taken hundisturbed hspace hadd
    rw [hexec]

/-! ## Registrations -/

/-- The registration has succeeded, and its row is the only change. -/
def Registers
    (state : State) (username email password name : String) (outcome : Except Failure Account)
    (later : Database) : Prop :=
  ∃ id hash,
    let row : Account :=
      { id, username, email, passwordHash := hash, name
        emailVerified := false
        isActive := true
        lastLoginAt := none
        createdAt := state.now
        updatedAt := state.now }
    (∀ old ∈ state.database.accounts, old.id ≠ id) ∧ Password.verify password hash = true ∧
      later = { state.database with accounts := state.database.accounts ++ [row] } ∧
      outcome = .ok row.withoutHash

/-- What a registration must come to. -/
structure RegistrationRule
    (policy : Password.Policy) (state : State) (username email password name : String)
    (outcome : Except Failure Account) (later : Database) : Prop where
  weak : ∀ violation, policy.check password = some violation →
    outcome = .error (.refused (.ofPassword violation.rule.name violation.message))
  taken : policy.check password = none →
    (outcome = .error (.usual .duplicateUser) ↔
      ∃ account ∈ state.database.accounts, account.username = username ∨ account.email = email)
  created : policy.check password = none →
    (∀ account ∈ state.database.accounts, account.username ≠ username ∧ account.email ≠ email) →
    state.database.accounts.length < Database.greatestId →
    Registers state username email password name outcome later
  /-- The ids of accounts are used up. -/
  full : policy.check password = none →
    (∀ account ∈ state.database.accounts, account.username ≠ username ∧ account.email ≠ email) →
    Database.greatestId ≤ state.database.accounts.length →
    outcome = .error (.broken .databaseFailed)
  failed : ∀ failure, outcome = .error failure → later = state.database

namespace Service.RegistrationOutcome

variable {service : Service} {state : State} {username email password name : String}
  {outcome : Except Failure Account} {later : Database}
  (houtcome : service.RegistrationOutcome state username email password name outcome later)

include houtcome

theorem of_weak
    {violation : Password.Violation} (hweak : service.policy.check password = some violation) :
    outcome = .error (.refused (.ofPassword violation.rule.name violation.message)) := by
  cases houtcome with
  | weak hother => rw [Option.some.inj (hweak.symm.trans hother)]
  | taken hpolicy | unhashed hpolicy | full hpolicy | enlisted hpolicy =>
      exact nomatch hweak.symm.trans hpolicy

theorem of_error {failure : Failure} (hfails : outcome = .error failure) :
    later = state.database := by
  cases houtcome with
  | weak | taken | unhashed | full => rfl
  | enlisted _ _ henlisted =>
      obtain ⟨_, _, _, _, -, -, -, -, rfl⟩ := henlisted
      cases hfails

variable (hpolicy : service.policy.check password = none)

include hpolicy

theorem duplicateUser_iff :
    outcome = .error (.usual .duplicateUser) ↔
      ∃ account ∈ state.database.accounts,
        account.username = username ∨ account.email = email := by
  rw [← Database.isTaken_eq_true_iff]
  cases houtcome with
  | weak hweak => exact nomatch hpolicy.symm.trans hweak
  | taken _ htaken => exact iff_of_true rfl htaken
  | unhashed _ hfree => exact iff_of_false (fun h => nomatch h) (by simp [hfree])
  | full _ hfree => exact iff_of_false (fun h => nomatch h) (by simp [hfree])
  | enlisted _ _ henlisted =>
      obtain ⟨_, _, _, _, -, -, hadd, -, rfl⟩ := henlisted
      obtain ⟨hfree, -⟩ := Database.addAccount?_eq_row hadd
      exact iff_of_false (fun h => nomatch h) (by simp [hfree])

variable (hfree : state.database.isTaken username email = false)
  (hhash : ∀ salt, ∃ hash, Password.hash service.hasher.rounds salt password = .ok hash)

include hfree hhash

/-- Whoever has a good password and free names is enlisted, unless there is no id left. -/
theorem of_free :
    (Store.isFull state.database = true ∧ outcome = .error (.broken .databaseFailed)) ∨
      Store.isFull state.database = false ∧
        Enlisted service state username email password name outcome later := by
  cases houtcome with
  | weak hweak => exact nomatch hpolicy.symm.trans hweak
  | taken _ htaken => exact nomatch hfree.symm.trans htaken
  | unhashed _ _ hfails =>
      obtain ⟨hash, hmade⟩ := hhash _
      exact nomatch hmade.symm.trans hfails
  | full _ _ hfull => exact .inl ⟨hfull, rfl⟩
  | enlisted _ hroom henlisted => exact .inr ⟨hroom, henlisted⟩

end Service.RegistrationOutcome

/-- The row of a new account is the one that is handed back. -/
theorem registers_of_enlisted
    {service : Service} {state : State} {username email password name : String}
    {outcome : Except Failure Account} {later : Database}
    (henlisted : service.Enlisted state username email password name outcome later) :
    Registers state username email password name outcome later := by
  obtain ⟨number, hash, id, account, hhash, -, hadd, haccount, rfl⟩ := henlisted
  have hgreater (old : Account) (hold : old ∈ state.database.accounts) : old.id < id :=
    Database.lt_of_addAccount? hadd hold
  obtain ⟨-, rfl⟩ := Database.addAccount?_eq_row hadd
  refine ⟨id, hash, fun old hold => Int.ne_of_lt (hgreater old hold),
    Password.verify_of_hash hhash, rfl, ?_⟩
  let row : Account :=
    ⟨id, username, email, hash, name, false, true, none, state.now, state.now⟩
  have hrow := Database.account?_concat (show ∀ old ∈ state.database.accounts, old.id < row.id
    from hgreater)
  rw [Option.some.inj (haccount.symm.trans hrow)]

theorem RegistrationRule.of_outcome
    {service : Service} {state : State} {username email password name : String}
    {outcome : Except Failure Account} {later : Database}
    (houtcome : service.RegistrationOutcome state username email password name outcome later)
    (hconsecutive : state.database.Consecutive)
    (hhash : service.policy.check password = none → ∀ salt,
      ∃ hash, Password.hash service.hasher.rounds salt password = .ok hash) :
    RegistrationRule service.policy state username email password name outcome later := by
  have hfree (hnobody : ∀ account ∈ state.database.accounts,
      account.username ≠ username ∧ account.email ≠ email) :
      state.database.isTaken username email = false := by
    rw [← Bool.not_eq_true, Database.isTaken_eq_true_iff]
    rintro ⟨account, hmem, hname | hname⟩
    · exact (hnobody account hmem).1 hname
    · exact (hnobody account hmem).2 hname
  refine ⟨fun _ => houtcome.of_weak, houtcome.duplicateUser_iff, ?_, ?_, fun _ => houtcome.of_error⟩
  · intro hpolicy hnobody hroom
    rcases houtcome.of_free hpolicy (hfree hnobody) (hhash hpolicy) with ⟨hfull, -⟩ | ⟨-, hdone⟩
    · exact nomatch hfull.symm.trans (hconsecutive.isFull_eq_false_iff.mpr hroom)
    · exact registers_of_enlisted hdone
  · intro hpolicy hnobody hmany
    rcases houtcome.of_free hpolicy (hfree hnobody) (hhash hpolicy) with ⟨-, hfails⟩ | ⟨hroom, -⟩
    · exact hfails
    · exact absurd (hconsecutive.isFull_eq_false_iff.mp hroom) (Nat.not_lt.mpr hmany)

/-- A service that was built of accepted settings registers by the rule, in every state that
deeds lead to.  Its policy is that of the settings, and it can hash every password that the
policy accepts. -/
theorem registration_decided
    {sources : Settings.Sources} {fresh : String} {settings : Settings} {log : List Log.Line}
    (hread : Settings.read sources fresh = .ok (settings, log)) {begin : Moment}
    {ids : Nat → String} {service : Service} {built : State}
    (hbuilt : exec settings.buildService (State.start begin ids) = (.ok service, built))
    {state : State} (hreached : Reached service built state) (now : Moment)
    (username email password name : String) :
    let clocked : State := { state with now }
    let result := exec (service.register username email password name) clocked
    RegistrationRule settings.policy clocked username email password name result.1
        result.2.database ∧
      NamesAgree clocked username email ∧
      ∀ accepted salt, settings.policy.check accepted = none →
        ∃ hash, Password.hash service.hasher.rounds salt accepted = .ok hash := by
  intro clocked result
  have haccepted := Settings.accepted_of_read hread
  obtain ⟨⟨dummy, hservice⟩, rfl⟩ := Settings.built_eq haccepted hbuilt
  have hpolicy : service.policy = settings.policy := by rw [hservice]
  have hhash (accepted salt : String) (haccepts : settings.policy.check accepted = none) :
      ∃ hash, Password.hash service.hasher.rounds salt accepted = .ok hash := by
    rw [hservice]
    exact haccepted.exists_hash haccepts salt
  have hcalm : clocked.disturbances = [] := hreached.undisturbed rfl
  have hconsecutive : clocked.database.Consecutive := hreached.consecutive rfl rfl
  have houtcome :=
    (Service.ends_registration_outcome hcalm service username email password name).apply.1
  refine ⟨?_, namesAgree hcalm (hreached.integral rfl rfl) hconsecutive username email, hhash⟩
  rw [← hpolicy] at hhash ⊢
  exact .of_outcome houtcome hconsecutive fun haccepts salt => hhash password salt haccepts

/-- With the default settings Ann registers first, and then her address is taken. -/
theorem registration_decided_for_ann :
    let sources : Settings.Sources :=
      ⟨[("secret_key", .text "0123456789abcdef0123456789abcdef")], [], ""⟩
    ∃ settings service built,
      Settings.read sources "" = .ok (settings, []) ∧
      exec settings.buildService (State.start .epoch) = (.ok service, built) ∧
      let clocked : State := { built with now := .epoch }
      let first := exec (service.register "ann" "a@b.org" "Passw0rd!" "Ann") clocked
      Registers clocked "ann" "a@b.org" "Passw0rd!" "Ann" first.1 first.2.database ∧
      (exec (service.register "bob" "a@b.org" "Passw0rd!" "Bob")
        { first.2 with now := .epoch }).1 = .error (.usual .duplicateUser) := by
  intro sources
  let settings : Settings := .withDefaults 900
  have hread : Settings.read sources "" = .ok (settings, []) := rfl
  have hpolicy : settings.policy.check "Passw0rd!" = none := by decide +kernel
  have hmeasurable : settings.Measurable := ⟨by decide, by decide⟩
  clear_value settings
  obtain ⟨service, built, hbuilt, hempty⟩ : ∃ service built,
      exec settings.buildService (State.start .epoch) = (.ok service, built) ∧
        built.database.accounts = [] := by
    obtain ⟨dummy, hbuilt⟩ :=
      Settings.exec_buildService (Settings.accepted_of_read hread) hmeasurable (State.start .epoch)
    exact ⟨_, _, hbuilt, rfl⟩
  refine ⟨settings, service, built, hread, hbuilt, ?_⟩
  intro clocked first
  obtain ⟨hfirst, -, -⟩ :=
    registration_decided hread hbuilt .start .epoch "ann" "a@b.org" "Passw0rd!" "Ann"
  have hcreated : Registers clocked "ann" "a@b.org" "Passw0rd!" "Ann" first.1 first.2.database := by
    refine hfirst.created hpolicy ?_ ?_
    · intro account hmem
      rw [hempty] at hmem
      cases hmem
    · rw [hempty]
      decide
  refine ⟨hcreated, ?_⟩
  obtain ⟨id, hash, -, -, hrows, -⟩ := hcreated
  let registration : Deed := .call (.register "ann" "a@b.org" "Passw0rd!" "Ann")
  have hafter : registration.after service built .epoch = first.2 :=
    congrArg Prod.snd (exec_map Answer.account _ clocked)
  have hreached : Reached service built (registration.after service built .epoch) :=
    .deed .start .epoch registration
  rw [hafter] at hreached
  obtain ⟨hsecond, -, -⟩ :=
    registration_decided hread hbuilt hreached .epoch "bob" "a@b.org" "Passw0rd!" "Bob"
  refine (hsecond.taken hpolicy).mpr ?_
  rw [hrows]
  exact ⟨_, List.mem_append_right _ List.mem_cons_self, .inr rfl⟩

end AccountSessions
