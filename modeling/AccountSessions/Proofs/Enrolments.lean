import AccountSessions.Proofs.AccountNames
import AccountSessions.Proofs.Logins

/-!
# Enrolled users

A registration leaves an account that can be verified.  From then on, until it is blocked,
the account is found by its names and accepts its password, so its user can log in and gets
a record of the session, whatever else the tables hold.
-/

namespace AccountSessions

/-! ## Deployed services -/

/-- The tokens have numbers of their own and the accounts have names of their own. -/
structure Deployed (service : Service) (ids : Nat → String) (state : State) : Prop where
  twins : Twins service ids state state
  named : Named state.database.accounts

theorem Twins.of_follows
    {service : Service} {ids : Nat → String} {state later : State} {moment : Moment}
    (htwins : Twins service ids state state)
    (hfollows : Follows { state with now := moment } state.database later) :
    Twins service ids later later := by
  have hbelow : NumberedBelow service ids (later.tokenIds.drawn + 1) later.database := by
    rw [hfollows.database]
    exact htwins.databases.below.mono (Nat.succ_le_succ hfollows.drawn)
  have hundisturbed := hfollows.disturbances.trans htwins.undisturbed
  exact ⟨hundisturbed, hundisturbed, rfl, hfollows.fixed.trans htwins.fixed,
    hfollows.text.trans htwins.text, rfl, rfl, rfl, rfl, hbelow, hbelow⟩

/-- A state is its own twin at any moment. -/
theorem Twins.clocked
    {service : Service} {ids : Nat → String} {state : State} (htwins : Twins service ids state state)
    (moment : Moment) :
    Twins service ids { state with now := moment } { state with now := moment } := by
  let clocked : State := { state with now := moment }
  have hclocked : Follows clocked state.database clocked := .refl clocked
  exact htwins.of_follows hclocked

namespace Deployed

variable {service : Service} {ids : Nat → String}

theorem start (service : Service) (begin : Moment) (ids : Nat → String) :
    Deployed service ids (State.start begin ids) := by
  have hbelow : NumberedBelow service ids 1 .empty := .empty service ids 1
  exact ⟨⟨rfl, rfl, rfl, rfl, rfl, rfl, rfl, rfl, rfl, hbelow, hbelow⟩, .nil⟩

theorem atMoment
    {state : State} (hdeployed : Deployed service ids state) (moment : Moment) :
    Deployed service ids { state with now := moment } :=
  ⟨hdeployed.twins.clocked moment, hdeployed.named⟩

/-- A call that gives no account a mixed name keeps a service in order. -/
theorem call
    {state : State} (hdeployed : Deployed service ids state) (hids : Function.Injective ids)
    (moment : Moment) {call : Call}
    (hunmixed : ∀ username email password name, call = .register username email password name →
      '@' ∉ username.toList ∧ '@' ∈ email.toList) :
    Deployed service ids (step service state moment call).2 := by
  obtain ⟨heffect, -⟩ := step_effect hdeployed.twins.undisturbed service moment call
  exact ⟨(hdeployed.twins.clocked moment).perform hids call, heffect.named hunmixed hdeployed.named⟩

end Deployed

/-! ## What a registration leaves behind -/

def Database.IsVerified (db : Database) (userId : Int) : Prop :=
  ∃ account ∈ db.accounts, account.id = userId ∧ account.emailVerified = true

/-- The user has been registered with the names and the password and was not blocked. -/
structure Enrolment (userId : Int) (username email password : String) (verified : Bool)
    (db : Database) : Prop where
  fits : Store.fitsColumn userId = true
  positive : 0 < userId
  enrolled : ∃ hash, Password.verify password hash = true ∧
    Enrolled userId username email hash verified db.accounts

/-- The row that a registration has added, whose hash accepts the password. -/
theorem exists_row_of_register
    {service : Service} {state later : State} (hundisturbed : state.disturbances = [])
    {username email password name : String} {account : Account}
    (hregister : exec (service.register username email password name) state =
      (.ok account, later)) :
    ∃ hash,
      let row : Account := ⟨Database.nextId (state.database.accounts.map (·.id)), username, email,
        hash, name, false, true, none, state.now, state.now⟩
      Password.verify password hash = true ∧ Store.fitsColumn row.id = true ∧
        account = row.withoutHash ∧
        later.database =
          { state.database with accounts := state.database.accounts ++ [row] } := by
  obtain ⟨hpost, -⟩ :=
    (Service.ends_registration hundisturbed service username email password name).apply
  rw [hregister] at hpost
  rcases hpost with ⟨⟨failure, hfails⟩, -⟩ |
    ⟨number, hash, id, stored, hhash, hfits, hadd, hstored, houtcome⟩
  · cases hfails
  obtain ⟨-, hrows⟩ := Database.addAccount?_eq_row hadd
  obtain rfl := Database.id_of_addAccount? hadd
  refine ⟨hash, Password.verify_of_hash hhash, hfits, ?_, hrows⟩
  let row : Account := ⟨Database.nextId (state.database.accounts.map (·.id)), username, email,
    hash, name, false, true, none, state.now, state.now⟩
  have hold : state.database.accounts.find? (·.id == row.id) = none := by
    refine List.find?_eq_none.mpr ?_
    intro old hmem
    have hbelow := Database.lt_nextId (List.mem_map_of_mem (f := (·.id)) hmem)
    simpa [row] using hbelow.ne
  have hrow : later.database.account? row.id = some row := by
    rw [hrows, Database.account?, List.find?_append, hold]
    simp [row]
  obtain rfl : stored = row := Option.some.inj (hstored.symm.trans hrow)
  exact Except.ok.inj houtcome

theorem enrolment_of_register
    {service : Service} {state later : State} (hundisturbed : state.disturbances = [])
    {username email password name : String} {account : Account}
    (hregister : exec (service.register username email password name) state =
      (.ok account, later)) :
    account.username = username ∧ account.email = email ∧ later.disturbances = [] ∧
      Enrolment account.id username email password false later.database := by
  obtain ⟨-, hfollows⟩ :=
    (Service.ends_registration hundisturbed service username email password name).apply
  rw [hregister] at hfollows
  obtain ⟨hash, haccepts, hfits, rfl, hrows⟩ := exists_row_of_register hundisturbed hregister
  refine ⟨rfl, rfl, hfollows.disturbances.trans hundisturbed, hfits, Database.nextId_pos _, hash,
    haccepts, ?_⟩
  rw [hrows]
  exact ⟨_, List.mem_append_right _ List.mem_cons_self, rfl, rfl, rfl, rfl, rfl, fun h => nomatch h⟩

namespace Enrolment

variable {userId : Int} {username email password : String} {verified : Bool}
variable {db : Database} (henrolment : Enrolment userId username email password verified db)

include henrolment

theorem of_isVerified (hnamed : Named db.accounts) (hverified : db.IsVerified userId) :
    Enrolment userId username email password true db := by
  obtain ⟨hash, haccepts, henrolled⟩ := henrolment.enrolled
  obtain ⟨account, hmem, rfl, hseen⟩ := hverified
  exact { henrolment with
    enrolled := ⟨hash, haccepts, henrolled.of_verified hnamed (hnamed.account?_eq hmem) hseen⟩ }

theorem admits
    (hnamed : Named db.accounts) (hverified : verified = true) {identifier : String}
    (hidentifier : identifier = username ∨ identifier = email) :
    ∃ account, Admits db identifier password account ∧ account.id = userId ∧
      account.email = email := by
  obtain ⟨hash, haccepts, account, hmem, hserves⟩ := henrolment.enrolled
  refine ⟨account, ⟨?_, ?_, hserves.verified hverified, hserves.active, ?_⟩, hserves.id,
    hserves.email⟩
  · rw [← hserves.username, ← hserves.email] at hidentifier
    exact hnamed.accountOf?_eq hmem hidentifier
  · rw [hserves.id]
    exact henrolment.fits
  · rw [hserves.passwordHash]
    exact haccepts

theorem effect
    {service : Service} {ids : TokenIds} {now : Moment} {later : Database} {call : Call}
    {outcome : Except Failure Answer} (heffect : Effect service ids now db call outcome later)
    (hspared : call ≠ .deactivate userId) :
    Enrolment userId username email password verified later := by
  obtain ⟨hash, haccepts, henrolled⟩ := henrolment.enrolled
  exact { henrolment with enrolled := ⟨hash, haccepts, henrolled.effect heffect hspared⟩ }

end Enrolment

namespace Enrolment

variable {userId : Int} {username email password : String} {verified : Bool} {state : State}
  (henrolment : Enrolment userId username email password verified state.database)

include henrolment

theorem call
    (hundisturbed : state.disturbances = []) (service : Service) (moment : Moment) {call : Call}
    (hspared : call ≠ .deactivate userId) :
    Enrolment userId username email password verified
      (step service state moment call).2.database :=
  henrolment.effect (step_effect hundisturbed service moment call).1 hspared

theorem database_verified
    (hundisturbed : state.disturbances = []) (service : Service) (moment : Moment) :
    (step service state moment (.verifyEmail userId)).2.database =
      state.database.markVerified userId moment := by
  obtain ⟨hash, -, account, hmem, hserves⟩ := henrolment.enrolled
  have hcalm : ({ state with now := moment } : State).disturbances = [] := hundisturbed
  have hmarks : Ends ((Call.verifyEmail userId).perform service) { state with now := moment }
      fun _ database => database = state.database.markVerified userId moment := by
    apply (Service.ends_verification hcalm userId).ends.map
    rintro outcome database (⟨hpowerless, -⟩ | ⟨_, -, -, rfl⟩)
    · have hhas : state.database.hasAccount userId = true :=
        Database.hasAccount_eq_true.mpr ⟨account, hmem, hserves.id⟩
      exact absurd (hpowerless henrolment.fits) (by simp [hhas])
    · rfl
  exact hmarks.apply.1

/-- A verification verifies whoever has registered. -/
theorem isVerified_step
    (hundisturbed : state.disturbances = []) (service : Service) (moment : Moment) :
    (step service state moment (.verifyEmail userId)).2.database.IsVerified
      userId := by
  obtain ⟨hash, -, account, hmem, hserves⟩ := henrolment.enrolled
  rw [henrolment.database_verified hundisturbed service moment]
  refine ⟨_, List.mem_map_of_mem hmem, ?_⟩
  rw [if_pos hserves.id]
  exact ⟨hserves.id, rfl⟩

end Enrolment

/-! ## Sessions of enrolled users -/

/-- The login opens a session for the user, adds its record to the table and notes the
time in the account. -/
structure Service.Enters (service : Service) (state : State) (moment : Moment)
    (identifier password : String) (userId : Int) (email : String) (session : Session)
    (stop : Moment) : Prop where
  outcome : (step service state moment (.login identifier password)).1 = .ok (.session session)
  user : session.account.id = userId
  accessToken : ∃ tokenId, state.tokenIds.Offers tokenId ∧
    service.issuer.issue .access moment tokenId userId (some email) = .ok session.accessToken
  refreshToken : ∃ tokenId, state.tokenIds.Offers tokenId ∧
    service.issuer.issue .refresh moment tokenId userId (some email) = .ok session.refreshToken
  expires : moment.add? service.issuer.refreshTtl = some stop
  database : (step service state moment (.login identifier password)).2.database =
    Database.stampLogin
      { state.database with
        records := state.database.records ++
          [⟨Database.nextId (state.database.records.map (·.id)), userId, session.refreshToken,
            stop, moment, none⟩] } userId moment

/-- Whoever is enrolled and verified can log in at a moment at which tokens can be issued. -/
theorem Deployed.enters
    {service : Service} {ids : Nat → String} {state : State}
    (hdeployed : Deployed service ids state) (hids : Function.Injective ids) {userId : Int}
    {username email password : String}
    (henrolment : Enrolment userId username email password true state.database)
    {identifier : String} (hidentifier : identifier = username ∨ identifier = email)
    {moment : Moment}
    (hissues : ∀ kind tokenId, ∃ token,
      service.issuer.issue kind moment tokenId userId (some email) = .ok token) :
    ∃ session stop,
      service.Enters state moment identifier password userId email session stop := by
  obtain ⟨account, hadmits, rfl, rfl⟩ := henrolment.admits hdeployed.named rfl hidentifier
  obtain ⟨hopening, session, hsession⟩ :=
    Service.opens_of_admits (hdeployed.twins.clocked moment) hids hadmits hissues
  have houtcome : (step service state moment (.login identifier password)).1 =
      .ok (.session session) := by
    rw [step, Call.perform, exec_map]
    exact congrArg (Except.map Answer.session) hsession
  have hlater : (step service state moment (.login identifier password)).2 =
      (exec (service.login identifier password) { state with now := moment }).2 := by
    rw [step, Call.perform, exec_map]
  rcases hexec : exec (service.login identifier password) { state with now := moment }
    with ⟨result, later⟩
  rw [hexec] at hopening hsession hlater
  cases hopening with
  | accessFails | refreshFails | unfit | taken => cases hsession
  | opened haccess hrefresh hexpires hadd =>
      obtain ⟨record, rfl, rfl, rfl, -⟩ := Database.exists_of_addRecord? hadd
      obtain rfl := Except.ok.inj hsession
      refine ⟨_, _, houtcome, rfl, ⟨_, state.tokenIds.offers_next, haccess⟩, ⟨_, ?_, hrefresh⟩,
        hexpires, ?_⟩
      · exact TokenIds.offers_of_rest state.tokenIds.rest.offers_next
      · rw [hlater]
        rfl

end AccountSessions
