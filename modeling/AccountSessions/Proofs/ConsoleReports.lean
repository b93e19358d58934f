import AccountSessions.Proofs.Comparison
import AccountSessions.Proofs.Keeping
import Mathlib.Logic.Function.Basic

/-!
# Reports of command lines

A command line leaves behind what the call that it makes leaves behind, and what it
prints is made of the outcome of that call and the moment alone.  If it makes none, it
changes nothing.
-/

namespace AccountSessions.Console

/-! ## Rendered outcomes -/

/-- The operation does what the action does, and reports on its outcome. -/
def Renders (operation : Operation Outcome) (action : Operation Answer)
    (render : Moment → Except Failure Answer → Except Failure Outcome) : Prop :=
  ∀ state, exec operation state =
    (render (exec action state).2.now (exec action state).1, (exec action state).2)

/-- What is printed depends on nothing but the moment, and nothing changes. -/
def Prints (printing : Operation Outcome) : Prop :=
  ∀ state, exec printing state = ((exec printing (.start state.now)).1, state)

section Rendering

variable {α : Type} {wrap : α → Answer} {next : α → Operation Outcome}

/-- The outcome of a call as its command reports it, when the rest of the command follows
on a success and a handler on a failure. -/
noncomputable def rendering
    (wrap : α → Answer) (next : α → Operation Outcome) (handler : Failure → Operation Outcome)
    (now : Moment) : Except Failure Answer → Except Failure Outcome
  | .ok answer =>
    match Function.partialInv wrap answer with
    | some value => (exec (next value) (.start now)).1
    | none => .ok ⟨0, "", ""⟩
  | .error failure => (exec (handler failure) (.start now)).1

variable (hwrap : Function.Injective wrap) (hnext : ∀ value, Prints (next value))

include hwrap hnext

theorem renders_bind (operation : Operation α) :
    Renders (operation >>= next) (wrap <$> operation) (rendering wrap next throw) := by
  intro state
  rw [exec_bind, exec_map]
  rcases exec operation state with ⟨outcome, later⟩
  cases outcome with
  | error failure => rfl
  | ok value =>
      simp only [Except.map, rendering, Function.partialInv_left hwrap]
      exact hnext value later

theorem renders_tryCatch
    {handler : Failure → Operation Outcome} (hhandler : ∀ failure, Prints (handler failure))
    (hprinted : ∀ value state, ∃ outcome, exec (next value) state = (.ok outcome, state))
    (operation : Operation α) :
    Renders (tryCatch (operation >>= next) handler) (wrap <$> operation)
      (rendering wrap next handler) := by
  intro state
  rw [exec_tryCatch, exec_bind, exec_map]
  rcases exec operation state with ⟨outcome, later⟩
  cases outcome with
  | error failure => exact hhandler failure later
  | ok value =>
      obtain ⟨printed, hprinted⟩ := hprinted value later
      have hsame := hnext value later
      rw [hprinted] at hsame
      simp only [Except.map, rendering, Function.partialInv_left hwrap, hprinted]
      exact hsame

end Rendering

/-! ## Commands -/

theorem exists_renders_purge :
    ∃ render, ∀ service : Service,
      Renders (runCommand service .purgeSessions) (Call.purge.perform service) render :=
  ⟨_, fun _ => renders_bind (fun _ _ h => Answer.count.inj h) (fun _ _ => rfl) Service.purge⟩

/-- The report of a command for a user does not depend on the service. -/
theorem exists_renders_runForUser (identifier : String) (id : Int) (command : UserCommand) :
    ∃ render, ∀ service : Service,
      Renders (runForUser service identifier id command) ((command.call id).perform service)
        render := by
  cases command with
  | verifyEmail =>
      refine ⟨_, fun service => renders_tryCatch (fun _ _ h => Answer.account.inj h)
        (fun _ _ => rfl) ?_ (fun _ _ => ⟨_, rfl⟩) _⟩
      intro failure state
      split <;> rfl
  | revokeSessions | deactivateUser =>
      exact ⟨_, fun service => renders_bind (fun _ _ h => Answer.count.inj h) (fun _ _ => rfl) _⟩
  | listSessions =>
      refine ⟨_, fun service => renders_bind (fun _ _ h => Answer.records.inj h) ?_ _⟩
      intro records state
      cases records with
      | nil | cons => rfl
  | activateUser =>
      exact ⟨_, fun service => renders_bind (fun _ _ _ => rfl) (fun _ _ => rfl) _⟩

theorem exec_runForUser_command
    {state : State} (hundisturbed : state.disturbances = []) (service : Service)
    (command : UserCommand) (identifier : String) :
    exec (runCommand service (.forUser command identifier)) state =
      match state.database.accountOf? identifier with
      | some account => exec (runForUser service identifier account.id command) state
      | none => (.ok (.warning ("No user matches '" ++ identifier ++ "'.")), state) := by
  rw [runCommand, exec_bind, Store.exec_accountByIdentifier hundisturbed]
  dsimp only
  cases state.database.accountOf? identifier with
  | none | some => rfl

/-- A command line that makes a call reports on it, whichever service it uses. -/
theorem exists_renders_run
    {db : Database} {arguments : List String} {call : Call}
    (hcall : call? db arguments = some call) :
    ∃ render : Moment → Except Failure Answer → Except Failure Outcome,
      ∀ (service : Service) (state : State), state.disturbances = [] → state.database = db →
      exec (run (pure service) arguments) state =
        (render (exec (call.perform service) state).2.now (exec (call.perform service) state).1,
          (exec (call.perform service) state).2) := by
  unfold call? at hcall
  cases hrequest : Request.ofArguments arguments with
  | nothing | help | faulty =>
      rw [hrequest] at hcall
      cases hcall
  | command command =>
      rw [hrequest] at hcall
      have hrun (service : Service) :
          run (pure service) arguments = runCommand service command := by
        rw [run, hrequest]
        exact pure_bind service _
      cases command with
      | purgeSessions =>
          obtain rfl := Option.some.inj hcall
          obtain ⟨render, hrender⟩ := exists_renders_purge
          refine ⟨render, fun service state _ _ => ?_⟩
          rw [hrun]
          exact hrender service state
      | forUser command identifier =>
          obtain ⟨account, haccount, rfl⟩ := Option.map_eq_some_iff.mp hcall
          obtain ⟨render, hrender⟩ := exists_renders_runForUser identifier account.id command
          refine ⟨render, fun service state hundisturbed hdatabase => ?_⟩
          rw [hrun, exec_runForUser_command hundisturbed, hdatabase, haccount]
          exact hrender service state

/-- A command line that makes no call only prints. -/
theorem exists_printed_run
    {db : Database} {arguments : List String} (hcall : call? db arguments = none) :
    ∃ outcome, ∀ (service : Service) (state : State), state.disturbances = [] →
      state.database = db → exec (run (pure service) arguments) state = (.ok outcome, state) := by
  unfold call? at hcall
  unfold run
  cases hrequest : Request.ofArguments arguments with
  | nothing => exact ⟨_, fun _ _ _ _ => rfl⟩
  | help form => exact ⟨_, fun _ _ _ _ => rfl⟩
  | faulty form fault => exact ⟨_, fun _ _ _ _ => rfl⟩
  | command command =>
      rw [hrequest] at hcall
      cases command with
      | purgeSessions => cases hcall
      | forUser command identifier =>
          refine ⟨.warning ("No user matches '" ++ identifier ++ "'."),
            fun service state hundisturbed hdatabase => ?_⟩
          dsimp only
          rw [pure_bind, exec_runForUser_command hundisturbed, hdatabase,
            Option.map_eq_none_iff.mp hcall]

end AccountSessions.Console
