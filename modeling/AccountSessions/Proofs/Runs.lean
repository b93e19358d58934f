import AccountSessions.Proofs.Calls

/-!
# Runs of the service

A run is a row of calls, each at its own moment, on a database that is empty at first.
The history keeps every call with its outcome.  What each effect preserves holds at the
end of every run.
-/

namespace AccountSessions

structure Entry where
  moment : Moment
  call : Call
  outcome : Except Failure Answer

def step (service : Service) (state : State) (moment : Moment) (call : Call) :
    Except Failure Answer × State :=
  exec (call.perform service) { state with now := moment }

/-- The states that calls lead to, with the calls that led there. -/
inductive Run (service : Service) (start : State) : List Entry → State → Prop where
  | nil : Run service start [] start
  | snoc {history : List Entry} {state : State} (hrun : Run service start history state)
      (moment : Moment) (call : Call) :
      Run service start (history ++ [⟨moment, call, (step service state moment call).1⟩])
        (step service state moment call).2

theorem step_effect
    {state : State} (hundisturbed : state.disturbances = []) (service : Service)
    (moment : Moment) (call : Call) :
    Effect service state.tokenIds moment state.database call (step service state moment call).1
        (step service state moment call).2.database ∧
      Follows { state with now := moment } (step service state moment call).2.database
        (step service state moment call).2 := by
  have hcalm : ({ state with now := moment } : State).disturbances = [] := hundisturbed
  exact (effect_of_perform hcalm service call).apply

structure Supplied (start state : State) : Prop where
  undisturbed : state.disturbances = []
  fixed : state.tokenIds.fixed = start.tokenIds.fixed
  text : state.tokenIds.text = start.tokenIds.text

theorem Run.supplied
    {service : Service} {start : State} (hstart : start.disturbances = [])
    {history : List Entry} {state : State} (hrun : Run service start history state) :
    Supplied start state := by
  induction hrun with
  | nil => exact ⟨hstart, rfl, rfl⟩
  | snoc hrun moment call ih =>
      obtain ⟨-, hfollows⟩ := step_effect ih.undisturbed service moment call
      exact ⟨hfollows.disturbances.trans ih.undisturbed, hfollows.fixed.trans ih.fixed,
        hfollows.text.trans ih.text⟩

/-- What holds of the empty database and is preserved by every effect holds after every
run. -/
theorem Run.invariant
    {service : Service} {start : State} (hstart : start.disturbances = [])
    (inv : List Entry → Database → Prop) (hempty : inv [] start.database)
    (hstep : ∀ history db entry db', inv history db →
      (∃ ids, Effect service ids entry.moment db entry.call entry.outcome db' ∧
        ∀ text, ids.Offers text → start.tokenIds.Offers text) →
      inv (history ++ [entry]) db')
    {history : List Entry} {state : State} (hrun : Run service start history state) :
    inv history state.database := by
  induction hrun with
  | nil => exact hempty
  | @snoc history state hrun moment call ih =>
      have hsupplied := hrun.supplied hstart
      obtain ⟨heffect, -⟩ := step_effect hsupplied.undisturbed service moment call
      refine hstep history state.database _ _ ih ⟨_, heffect, ?_⟩
      rintro text (hfixed | ⟨number, hnumber⟩)
      · exact .inl (hsupplied.fixed.symm.trans hfixed)
      · exact .inr ⟨number, hsupplied.text ▸ hnumber⟩

end AccountSessions
