import AccountSessions.Proofs.Calls
import AccountSessions.Proofs.Comparison

/-!
# Calls of compared services

Every call has the same outcome with both services, and the comparison holds afterwards.
A publisher is handed an event by the calls that succeed and announce something, when
nothing can fail any more.  Only a registration and a login look at a password: the one
at what the policy and the hasher make of it, the other at the verdict on it.
-/

namespace AccountSessions

open Operation

/-! ## Events of calls -/

/-- What a call announces when it succeeds. -/
def Call.event? (now : Moment) : Call → Answer → Option Event
  | register username _ _ _, .account account =>
    some ⟨.registered, account.id, now, .username username⟩
  | login _ _, .session session => some ⟨.loggedIn, session.account.id, now, .nothing⟩
  | logout userId _, .done => some ⟨.loggedOut, userId, now, .nothing⟩
  | logoutAll userId, .count count => some ⟨.loggedOutEverywhere, userId, now, .revoked count⟩
  | _, _ => none

def Call.Announces : Call → Prop
  | register _ _ _ _ => True
  | login _ _ => True
  | logout _ _ => True
  | logoutAll _ => True
  | _ => False

/-- The event of a call with this outcome. -/
def Call.told? (now : Moment) (call : Call) : Except Failure Answer → Option Event
  | .ok answer => call.event? now answer
  | .error _ => none

/-! ## Checks of passwords -/

def Call.TakesPassword : Call → Prop
  | register _ _ _ _ => True
  | login _ _ => True
  | _ => False

/-- The verdict on a password that a login asks for, if it comes to that. -/
def Service.verdict? (service : Service) (db : Database) (identifier password : String) :
    Option Password.Verdict :=
  match db.accountOf? identifier with
  | none => some (Password.judge password service.hasher.dummyHash)
  | some account =>
    if account.emailVerified then some (Password.judge password account.passwordHash) else none

/-- What a registration in this state makes of the password. -/
def Service.hashed (service : Service) (state : State) (password : String) :
    Except Breakdown String :=
  Password.hash service.hasher.rounds (Password.numberedSalt state.saltsDrawn) password

namespace Beside

variable {first second : Service} {comparison : Comparison first second} {now : Moment}
  {state twin : State} (hbeside : comparison.Holds now state twin)

theorem session_eq
    (comparison : Comparison first second) {account other : Account}
    (hsame : account.withoutHash = other.withoutHash) (accessToken refreshToken : String) :
    first.session account accessToken refreshToken =
      second.session other accessToken refreshToken := by
  rw [Service.session, Service.session, comparison.issuer, hsame]

include hbeside

/-! ## Operations -/

theorem register
    {username email name password other : String}
    (hpolicy : first.policy.check other = first.policy.check password)
    (hhashed : first.policy.check password = none →
      state.database.isTaken username email = false →
      HashesAlike comparison.hashes (first.hashed state password) (second.hashed twin other)) :
    Agree (comparison.Holds now) (first.register username email password name)
      (second.register username email other name) state twin fun account found later last =>
        account = found ∧
          comparison.After now (some ⟨.registered, account.id, now, .username username⟩) later
            last := by
  unfold Service.register
  have hnoted := hbeside.noted
    ⟨.info, .service, "Registration attempt username=" ++ username⟩ nofun
  refine .advance (exec_note _ _ _ state) (exec_note _ _ _ twin) ?_
  dsimp only
  rw [comparison.policy, hpolicy]
  cases hcheck : first.policy.check password with
  | some violation =>
      dsimp only
      refine .bind (hnoted.note .warning .service _) ?_
      rintro _ _ later last ⟨-, hbeside⟩
      exact .bind_error (.throw _ hbeside)
  | none =>
      dsimp only
      refine .advance (Store.exec_accountExists hnoted.undisturbed username email)
        (Store.exec_accountExists hnoted.twinUndisturbed username email) ?_
      dsimp only
      rw [hbeside.databases.isTaken_eq]
      cases htaken : state.database.isTaken username email with
      | true =>
          rw [if_pos rfl, if_pos rfl]
          exact hnoted.note_refuse .warning .service _ _
      | false =>
          rw [if_neg Bool.false_ne_true, if_neg Bool.false_ne_true]
          refine .advance (exec_drawSalt _) (exec_drawSalt _) ?_
          refine (hnoted.salted.ofHash (hhashed hcheck htaken)).bind ?_
          rintro hash otherHash later last ⟨hrelated, hbeside⟩
          refine (hbeside.createAccount hrelated).bind ?_
          rintro id _ created twinCreated ⟨rfl, hbeside, hhas⟩
          refine (hbeside.accountById id).bind ?_
          rintro found other later last ⟨hfound, hmatches, hbeside⟩
          obtain ⟨account, haccount, hid⟩ := Database.exists_account? hhas
          rw [haccount] at hfound
          subst hfound hid
          refine .bind (hbeside.note .info .service _) ?_
          rintro _ _ later last ⟨-, hbeside⟩
          refine (hbeside.publish _ _ _).bind ?_
          intro _ _ later last hafter
          cases hmatches with
          | some hrow =>
              obtain ⟨hash, -, rfl⟩ := hrow
              exact .pure ⟨rfl, hafter⟩

theorem verifyEmail (userId : Int) :
    InStep (comparison.Holds now) (Service.verifyEmail userId) state twin := by
  unfold Service.verifyEmail
  refine (hbeside.markVerified userId).bind ?_
  intro marked later last hbeside
  cases marked with
  | false => exact .bind_error (hbeside.refuse _)
  | true =>
      refine (hbeside.note .info .service _).bind ?_
      intro _ later last hbeside
      refine (hbeside.accountById userId).bind ?_
      rintro found other later last ⟨-, hmatches, hbeside⟩
      cases hmatches with
      | none => exact .bind_error (hbeside.breakDown _)
      | some hrow =>
          obtain ⟨hash, -, rfl⟩ := hrow
          exact .pure ⟨rfl, hbeside⟩

theorem login
    {identifier password other : String}
    (hverdicts : Option.Rel Password.Verdict.Resembles
      (first.verdict? state.database identifier password)
      (second.verdict? twin.database identifier other)) :
    Agree (comparison.Holds now) (first.login identifier password)
      (second.login identifier other) state twin fun session found later last =>
        session = found ∧ comparison.After now
          (some ⟨.loggedIn, session.account.id, now, .nothing⟩) later last := by
  unfold Service.login
  have hnoted := hbeside.noted ⟨.info, .service, "Login attempt"⟩ nofun
  refine .advance (exec_note _ _ _ state) (exec_note _ _ _ twin) ?_
  refine .advance (Store.exec_accountByIdentifier hnoted.undisturbed identifier)
    (Store.exec_accountByIdentifier hnoted.twinUndisturbed identifier) ?_
  have hmatches := hbeside.databases.accountOf? identifier
  unfold Service.verdict? at hverdicts
  dsimp only
  revert hmatches hverdicts
  generalize state.database.accountOf? identifier = account
  generalize twin.database.accountOf? identifier = twinAccount
  intro hverdicts hmatches
  cases hmatches with
  | none =>
      cases hverdicts with
      | some hverdict =>
          refine (hnoted.checkPassword hverdict).bind ?_
          rintro accepted _ later last ⟨-, hbeside⟩
          refine .bind (hbeside.note .warning .service _) ?_
          rintro _ _ later last ⟨-, hbeside⟩
          exact hbeside.refuse _
  | @some account twinAccount hrow =>
      obtain ⟨hash, -, rfl⟩ := hrow
      dsimp only at hverdicts ⊢
      cases hverified : account.emailVerified with
      | false => exact hnoted.note_refuse .warning .service _ _
      | true =>
          rw [hverified, if_pos rfl, if_pos rfl] at hverdicts
          cases hverdicts with
          | some hverdict =>
              refine (hnoted.checkPassword hverdict).bind ?_
              rintro accepted _ later last ⟨rfl, hbeside⟩
              cases accepted with
              | false => exact hbeside.note_refuse .warning .service _ _
              | true =>
                  cases account.isActive with
                  | false => exact hbeside.note_refuse .warning .service _ _
                  | true =>
                      refine (hbeside.issue .access account.holder).bind ?_
                      rintro accessToken _ later last ⟨rfl, hbeside⟩
                      refine (hbeside.issue .refresh account.holder).bind ?_
                      rintro refreshToken _ later last ⟨rfl, hbeside⟩
                      refine hbeside.clock_bind ?_
                      rw [comparison.issuer]
                      cases now.add? first.issuer.refreshTtl with
                      | none => exact hbeside.breakDown _
                      | some expires =>
                          refine .bind (hbeside.createRecord account.id refreshToken expires) ?_
                          rintro _ _ later last ⟨-, hbeside⟩
                          refine .bind (hbeside.stampLogin account.id) ?_
                          rintro moment _ later last ⟨rfl, hbeside⟩
                          refine .bind (hbeside.note .info .service _) ?_
                          rintro _ _ later last ⟨-, hbeside⟩
                          refine (hbeside.publish _ _ _).bind ?_
                          intro _ _ later last hafter
                          exact .pure ⟨session_eq comparison rfl .., hafter⟩

theorem refresh (token : String) :
    comparison.Alongside now (first.refresh token) (second.refresh token) state twin := by
  unfold Service.refresh
  refine (hbeside.validateRefresh token _).bind ?_
  rintro claims _ later last ⟨rfl, hbeside⟩
  refine (hbeside.accountById claims.userId).bind ?_
  rintro found other later last ⟨-, hmatches, hbeside⟩
  cases hmatches with
  | none =>
      refine .bind (hbeside.note .warning .service _) ?_
      rintro _ _ later last ⟨-, hbeside⟩
      exact hbeside.refuse _
  | @some account twinAccount hrow =>
      obtain ⟨hash, -, rfl⟩ := hrow
      refine .bind (hbeside.liveRecord token) ?_
      rintro live _ later last ⟨rfl, hbeside⟩
      cases live.isNone with
      | true => exact hbeside.note_refuse .warning .service _ _
      | false =>
          refine (hbeside.issue .access account.holder).bind ?_
          rintro accessToken _ later last ⟨rfl, hbeside⟩
          refine .bind (hbeside.note .info .service _) ?_
          rintro _ _ later last ⟨-, hbeside⟩
          exact .pure ⟨session_eq comparison rfl .., hbeside⟩

theorem validateToken (token : String) :
    comparison.Alongside now (first.validateToken token) (second.validateToken token) state
      twin := by
  unfold Service.validateToken
  refine .tryCatch (hbeside.validate .access token) ?_
  intro failure later last hbeside
  cases failure with
  | broken cause => exact hbeside.breakDown _
  | refused refusal =>
      refine (hbeside.validate .refresh token).bind ?_
      rintro claims _ later last ⟨rfl, hbeside⟩
      refine .bind (hbeside.liveRecord token) ?_
      rintro live _ later last ⟨rfl, hbeside⟩
      cases live.isNone with
      | true => exact .bind_error (.throw _ hbeside)
      | false => exact .pure ⟨rfl, hbeside⟩

theorem logout (userId : Int) (token : String) :
    Agree (comparison.Holds now) (first.logout userId token) (second.logout userId token) state
      twin fun _ _ => comparison.After now (some ⟨.loggedOut, userId, now, .nothing⟩) := by
  unfold Service.logout
  refine (hbeside.validateRefresh token _).bind ?_
  rintro claims _ later last ⟨rfl, hbeside⟩
  by_cases howner : claims.userId ≠ userId
  · rw [if_pos howner, if_pos howner]
    exact hbeside.note_refuse .warning .service _ _
  · rw [if_neg howner, if_neg howner]
    refine .bind (hbeside.revokeRecord token) ?_
    rintro revoked _ later last ⟨rfl, hbeside⟩
    cases revoked with
    | true =>
        refine .bind (hbeside.note .info .service _) ?_
        rintro _ _ later last ⟨-, hbeside⟩
        exact hbeside.publish _ _ _
    | false =>
        refine .bind (hbeside.findRecord token) ?_
        rintro found _ later last ⟨rfl, hbeside⟩
        cases found with
        | none => exact hbeside.note_refuse .warning .service _ _
        | some record => exact hbeside.note_refuse .warning .service _ _

theorem logoutAll (userId : Int) :
    Agree (comparison.Holds now) (first.logoutAll userId) (second.logoutAll userId) state twin
      fun count found later last => count = found ∧
        comparison.After now (some ⟨.loggedOutEverywhere, userId, now, .revoked count⟩) later
          last := by
  unfold Service.logoutAll
  refine .bind (hbeside.revokeAllRecords userId) ?_
  rintro count _ later last ⟨rfl, hbeside⟩
  refine (hbeside.publish _ _ _).bind ?_
  intro _ _ later last hafter
  exact .pure ⟨rfl, hafter⟩

theorem deactivate (userId : Int) :
    InStep (comparison.Holds now) (Service.deactivate userId) state twin := by
  unfold Service.deactivate
  refine (hbeside.setActive userId false).bind ?_
  intro found later last hbeside
  cases found with
  | false => exact .bind_error (hbeside.refuse _)
  | true =>
      refine (hbeside.revokeAllRecords userId).bind ?_
      intro count later last hbeside
      refine (hbeside.note .info .service _).bind ?_
      intro _ later last hbeside
      exact .pure ⟨rfl, hbeside⟩

theorem activate (userId : Int) :
    InStep (comparison.Holds now) (Service.activate userId) state twin := by
  unfold Service.activate
  refine (hbeside.setActive userId true).bind ?_
  intro found later last hbeside
  cases found with
  | false => exact .bind_error (hbeside.refuse _)
  | true => exact hbeside.note .info .service _

end Beside

/-! ## The whole -/

namespace Comparison

variable {first second : Service}

/-- Calls that are the same but for their passwords, of which the services think alike. -/
inductive Pairs (comparison : Comparison first second) (state twin : State) :
    Call → Call → Prop where
  | register {username email name password other : String}
      (hpolicy : first.policy.check other = first.policy.check password)
      (hhashed : first.policy.check password = none →
        state.database.isTaken username email = false →
        HashesAlike comparison.hashes (first.hashed state password) (second.hashed twin other)) :
      Pairs comparison state twin (.register username email password name)
        (.register username email other name)
  | login {identifier password other : String}
      (hverdicts : Option.Rel Password.Verdict.Resembles
        (first.verdict? state.database identifier password)
        (second.verdict? twin.database identifier other)) :
      Pairs comparison state twin (.login identifier password) (.login identifier other)
  | same {call : Call} (hplain : ¬ call.TakesPassword) : Pairs comparison state twin call call

variable {comparison : Comparison first second} {now : Moment} {state twin : State}

theorem agree_of_inStep
    {α : Type} {action other : Operation α} {change : α → Answer} {call : Call}
    (hstep : comparison.Alongside now action other state twin)
    (hsilent : ∀ value, call.event? now (change value) = none) :
    Agree (comparison.Holds now) (change <$> action) (change <$> other) state twin
      fun answer found later last =>
        answer = found ∧ comparison.After now (call.event? now answer) later last := by
  refine hstep.map ?_
  rintro value _ later last ⟨rfl, hbeside⟩
  rw [hsilent]
  exact ⟨rfl, hbeside⟩

theorem agree_perform
    (hbeside : comparison.Holds now state twin) {call other : Call}
    (hpairs : comparison.Pairs state twin call other) :
    Agree (comparison.Holds now) (call.perform first) (other.perform second) state twin
      fun answer found later last =>
        answer = found ∧ comparison.After now (call.event? now answer) later last := by
  cases hpairs with
  | register hpolicy hhashed =>
      refine (hbeside.register hpolicy hhashed).map ?_
      rintro account _ later last ⟨rfl, hafter⟩
      exact ⟨rfl, hafter⟩
  | login hverdicts =>
      refine (hbeside.login hverdicts).map ?_
      rintro session _ later last ⟨rfl, hafter⟩
      exact ⟨rfl, hafter⟩
  | same hplain =>
      cases call with
      | register | login => exact (hplain trivial).elim
      | verifyEmail userId => exact agree_of_inStep (hbeside.verifyEmail userId) fun _ => rfl
      | refresh token => exact agree_of_inStep (hbeside.refresh token) fun _ => rfl
      | validateToken token => exact agree_of_inStep (hbeside.validateToken token) fun _ => rfl
      | deactivate userId => exact agree_of_inStep (hbeside.deactivate userId) fun _ => rfl
      | activate userId => exact agree_of_inStep (hbeside.activate userId) fun _ => rfl
      | listSessions userId => exact agree_of_inStep (hbeside.listRecords userId) fun _ => rfl
      | purge => exact agree_of_inStep hbeside.sweepRecords fun _ => rfl
      | logout userId token =>
          exact (hbeside.logout userId token).map fun _ _ _ _ hafter => ⟨rfl, hafter⟩
      | logoutAll userId =>
          refine (hbeside.logoutAll userId).map ?_
          rintro count _ later last ⟨rfl, hafter⟩
          exact ⟨rfl, hafter⟩

/-- Both services give the same outcome, and an event was told if it is a success that
has one. -/
theorem perform_eq
    (hbeside : comparison.Holds now state twin) {call other : Call}
    (hpairs : comparison.Pairs state twin call other) :
    (exec (other.perform second) twin).1 = (exec (call.perform first) state).1 ∧
      comparison.After now (call.told? now (exec (call.perform first) state).1)
        (exec (call.perform first) state).2 (exec (other.perform second) twin).2 := by
  cases agree_perform hbeside hpairs with
  | ok hfirst hsecond hpost =>
      rw [hfirst, hsecond, hpost.1]
      exact ⟨rfl, hpost.1 ▸ hpost.2⟩
  | error hfirst hsecond hfailed =>
      rw [hfirst, hsecond]
      exact ⟨rfl, hfailed⟩

end Comparison

end AccountSessions
