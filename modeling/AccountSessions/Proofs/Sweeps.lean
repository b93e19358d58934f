import AccountSessions.Proofs.SmallDeployment

/-!
# Sweeps are invisible

Two runs that make the same calls at the same moments, and sweep when and as often as
they like, cannot be told apart by what registration, verification, login, refresh and
the check of tokens answer.  Their databases have the same accounts and, up to numbers,
the same live records.
-/

namespace AccountSessions

namespace Call

def isSweep : Call → Bool
  | purge => true
  | _ => false

/-- The calls that neither end sessions nor tell of records. -/
def isSteady : Call → Bool
  | register _ _ _ _ => true
  | verifyEmail _ => true
  | login _ _ => true
  | refresh _ => true
  | validateToken _ => true
  | _ => false

theorem eq_purge {call : Call} (hsweep : call.isSweep = true) : call = .purge := by
  cases call with
  | purge => rfl
  | _ => cases hsweep

end Call

namespace Twins

variable {service : Service} {ids : Nat → String} {state twin : State}
  (htwins : Twins service ids state twin)

include htwins

theorem outcome_eq
    (hids : Function.Injective ids) {call : Call} (hsteady : call.isSteady = true) :
    (exec (call.perform service) twin).1 = (exec (call.perform service) state).1 := by
  cases call with
  | register username email password name =>
      exact ((htwins.register username email password name).map _).outcome_eq.1
  | verifyEmail userId => exact ((htwins.verifyEmail userId).map _).outcome_eq.1
  | login identifier password => exact ((htwins.login hids identifier password).map _).outcome_eq.1
  | refresh token => exact ((htwins.refresh token).map _).outcome_eq.1
  | validateToken token => exact ((htwins.validateToken token).map _).outcome_eq.1
  | _ => cases hsteady

end Twins

/-! ## Runs that differ in sweeps -/

namespace Entry

def request (entry : Entry) : Moment × Call :=
  (entry.moment, entry.call)

end Entry

/-- The calls of the history that are no sweeps, with their moments. -/
def requestsOf (history : List Entry) : List (Moment × Call) :=
  (history.filter (!·.call.isSweep)).map Entry.request

/-- The steady calls of the history, with their outcomes. -/
def steadyOf (history : List Entry) : List Entry :=
  history.filter (·.call.isSteady)

def InOrder (history : List Entry) : Prop :=
  history.Pairwise fun earlier later => earlier.moment.micros ≤ later.moment.micros

theorem requestsOf_concat_sweep
    {entry : Entry} (hsweep : entry.call.isSweep = true) (history : List Entry) :
    requestsOf (history ++ [entry]) = requestsOf history := by
  simp [requestsOf, List.filter_append, hsweep]

theorem requestsOf_concat
    {entry : Entry} (hcall : entry.call.isSweep = false) (history : List Entry) :
    requestsOf (history ++ [entry]) = requestsOf history ++ [entry.request] := by
  simp [requestsOf, List.filter_append, hcall]

theorem steadyOf_append (first second : List Entry) :
    steadyOf (first ++ second) = steadyOf first ++ steadyOf second :=
  List.filter_append ..

theorem InOrder.of_moments
    {history : List Entry} (moment : Moment)
    (hmoments : ∀ passed ∈ history.map (·.moment), passed = moment) :
    InOrder history := by
  have hsame (entry : Entry) (hmem : entry ∈ history) : entry.moment = moment :=
    hmoments _ (List.mem_map_of_mem hmem)
  refine List.pairwise_of_forall_mem_list fun earlier hearlier later hlater => ?_
  rw [hsame earlier hearlier, hsame later hlater]

theorem InOrder.of_concat
    {history : List Entry} {entry : Entry} (horder : InOrder (history ++ [entry])) :
    InOrder history ∧ ∀ earlier ∈ history, earlier.moment.micros ≤ entry.moment.micros := by
  obtain ⟨hhistory, -, hlast⟩ := List.pairwise_append.mp horder
  exact ⟨hhistory, fun earlier hmem => hlast earlier hmem entry (List.mem_singleton.mpr rfl)⟩

/-- The steady calls of both histories had the same outcomes, and the states that the
histories led to are twins from the latest call on. -/
structure InPace (service : Service) (ids : Nat → String) (plain swept : List Entry)
    (state twin : State) : Prop where
  outcomes : steadyOf swept = steadyOf plain
  twins : ∀ moment : Moment,
    (∀ entry ∈ plain, entry.moment.micros ≤ moment.micros) →
    (∀ entry ∈ swept, entry.moment.micros ≤ moment.micros) →
    Twins service ids { state with now := moment } { twin with now := moment }

namespace InPace

variable {service : Service} {ids : Nat → String} {plain swept : List Entry} {state twin : State}

theorem start (service : Service) (begin : Moment) (ids : Nat → String) :
    InPace service ids [] [] (State.start begin ids) (State.start begin ids) where
  outcomes := rfl
  twins := by
    intro moment _ _
    exact ⟨rfl, rfl, rfl, rfl, rfl, rfl, rfl, rfl, rfl, .empty _ _ _, .empty _ _ _⟩

theorem symm (hpace : InPace service ids plain swept state twin) :
    InPace service ids swept plain twin state where
  outcomes := hpace.outcomes.symm
  twins := fun moment hswept hplain => (hpace.twins moment hplain hswept).symm

theorem exec_purge
    {state : State} (hundisturbed : state.disturbances = []) (service : Service) :
    ∃ log, (exec (Call.purge.perform service) state).2 =
      { state with database := state.database.sweep state.now, log } := by
  rw [Call.perform, Service.purge, Store.sweepRecords, map_eq_pure_bind, exec_bind,
    Store.exec_guarded hundisturbed]
  exact ⟨_, rfl⟩

theorem sweep_right
    (hpace : InPace service ids plain swept state twin) (hundisturbed : twin.disturbances = [])
    (moment : Moment) :
    InPace service ids plain (swept ++ [⟨moment, .purge, (step service twin moment .purge).1⟩])
      state (step service twin moment .purge).2 where
  outcomes := by
    rw [steadyOf_append, hpace.outcomes]
    exact List.append_nil _
  twins := by
    intro now hplain hswept
    have hentry := hswept _ (List.mem_append_right swept (List.mem_singleton.mpr rfl))
    have htwins := hpace.twins now hplain fun entry hmem =>
      hswept entry (List.mem_append_left _ hmem)
    have hcalm : ({ twin with now := moment } : State).disturbances = [] := hundisturbed
    obtain ⟨log, hexec⟩ := exec_purge hcalm service
    have hdatabases := htwins.withDatabases (htwins.databases.symm.sweep_left hentry).symm
    unfold step
    rw [hexec]
    exact hdatabases.hushed state.log state.published log twin.published

theorem call
    (hpace : InPace service ids plain swept state twin) (hids : Function.Injective ids)
    (moment : Moment) (call : Call)
    (hplain : ∀ entry ∈ plain, entry.moment.micros ≤ moment.micros)
    (hswept : ∀ entry ∈ swept, entry.moment.micros ≤ moment.micros) :
    InPace service ids (plain ++ [⟨moment, call, (step service state moment call).1⟩])
      (swept ++ [⟨moment, call, (step service twin moment call).1⟩])
      (step service state moment call).2 (step service twin moment call).2 := by
  have htwins := hpace.twins moment hplain hswept
  refine ⟨?_, ?_⟩
  · rw [steadyOf_append, steadyOf_append, hpace.outcomes]
    congr 1
    cases hsteady : call.isSteady with
    | false => simp [steadyOf, hsteady]
    | true => simp [steadyOf, hsteady, step, htwins.outcome_eq hids hsteady]
  · intro now hall _
    have hlater : Twins service ids (step service state moment call).2
        (step service twin moment call).2 := htwins.perform hids call
    have hmoment : (step service state moment call).2.now = moment :=
      (step_effect htwins.undisturbed service moment call).2.now
    apply hlater.atMoment
    rw [hmoment]
    exact hall _ (List.mem_append_right plain (List.mem_singleton.mpr rfl))

end InPace

theorem inPace_of_runs
    {service : Service} {begin : Moment} {ids : Nat → String} (hids : Function.Injective ids)
    {plain : List Entry} {state : State}
    (hplain : Run service (State.start begin ids) plain state) :
    ∀ {swept : List Entry} {twin : State}, Run service (State.start begin ids) swept twin →
      requestsOf swept = requestsOf plain → InOrder plain → InOrder swept →
      InPace service ids plain swept state twin := by
  induction hplain with
  | nil =>
      intro swept twin hswept
      induction hswept with
      | nil => exact fun _ _ _ => .start service begin ids
      | snoc hswept moment call ih =>
          intro hrequests hplainOrder hsweptOrder
          cases hsweep : call.isSweep with
          | true =>
              obtain rfl := Call.eq_purge hsweep
              rw [requestsOf_concat_sweep hsweep] at hrequests
              exact (ih hrequests hplainOrder hsweptOrder.of_concat.1).sweep_right
                (hswept.supplied rfl).undisturbed moment
          | false =>
              rw [requestsOf_concat hsweep] at hrequests
              exact absurd hrequests (by simp [requestsOf])
  | snoc hplain moment call ih =>
      intro swept twin hswept hrequests hplainOrder
      cases hsweep : call.isSweep with
      | true =>
          intro hsweptOrder
          obtain rfl := Call.eq_purge hsweep
          rw [requestsOf_concat_sweep hsweep] at hrequests
          exact ((ih hswept hrequests hplainOrder.of_concat.1 hsweptOrder).symm.sweep_right
            (hplain.supplied rfl).undisturbed moment).symm
      | false =>
          induction hswept with
          | nil =>
              rw [requestsOf_concat hsweep] at hrequests
              exact absurd hrequests (by simp [requestsOf])
          | snoc hswept twinMoment twinCall twinIh =>
              intro hsweptOrder
              cases htwinSweep : twinCall.isSweep with
              | true =>
                  obtain rfl := Call.eq_purge htwinSweep
                  rw [requestsOf_concat_sweep htwinSweep] at hrequests
                  exact (twinIh hrequests hsweptOrder.of_concat.1).sweep_right
                    (hswept.supplied rfl).undisturbed twinMoment
              | false =>
                  rw [requestsOf_concat htwinSweep, requestsOf_concat hsweep] at hrequests
                  obtain ⟨hbefore, hlast⟩ := List.append_inj' hrequests rfl
                  injection hlast with hlast
                  injection hlast with hmoment hcall
                  obtain rfl : twinMoment = moment := hmoment
                  obtain rfl : twinCall = call := hcall
                  obtain ⟨hplainBefore, hplainLast⟩ := hplainOrder.of_concat
                  obtain ⟨hsweptBefore, hsweptLast⟩ := hsweptOrder.of_concat
                  exact (ih hswept hbefore hplainBefore hsweptBefore).call hids twinMoment twinCall
                    hplainLast hsweptLast

/-- Sweeps change no outcome of a registration, a verification, a login, a refresh or a
check of a token, and neither the accounts nor the live records.  As every beginning of a
run is a run, this holds at each of its points. -/
theorem sweeps_invisible
    {service : Service} {begin : Moment} {ids : Nat → String} (hids : Function.Injective ids)
    {plain swept : List Entry} {state twin : State}
    (hplain : Run service (State.start begin ids) plain state)
    (hswept : Run service (State.start begin ids) swept twin)
    (hrequests : requestsOf swept = requestsOf plain) (hplainOrder : InOrder plain)
    (hsweptOrder : InOrder swept) :
    steadyOf swept = steadyOf plain ∧ twin.database.accounts = state.database.accounts ∧
      ∀ moment : Moment, (∀ entry ∈ plain ++ swept, entry.moment.micros ≤ moment.micros) →
        twin.database.sessionsAt moment = state.database.sessionsAt moment := by
  have hpace := inPace_of_runs hids hplain hswept hrequests hplainOrder hsweptOrder
  have htwins (moment : Moment)
      (hpast : ∀ entry ∈ plain ++ swept, entry.moment.micros ≤ moment.micros) :=
    hpace.twins moment (fun entry hmem => hpast entry (List.mem_append_left _ hmem))
      fun entry hmem => hpast entry (List.mem_append_right _ hmem)
  refine ⟨hpace.outcomes, ?_, ?_⟩
  · let last : Moment := ⟨latestMicros, by decide⟩
    exact (htwins last fun entry _ => entry.moment.inCalendar.2).databases.accounts
  · intro moment hpast
    exact (htwins moment hpast).databases.sessions

/-- Ann and bob have logged in, and bob's session is ended.  A sweep takes his record away,
and a check of ann's token gives her claims with the sweep as without it. -/
theorem sweeps_invisible_between :
    ∃ (history : List Entry) (state : State) (ann bob : Session) (claims : Token.Claims),
      Run .lenient (.start .epoch Token.unaryId) history state ∧
      let closed := (step .lenient state .epoch (.logoutAll 2)).2
      let swept := (step .lenient closed .epoch .purge).2
      closed.database.records.map (·.token) = [ann.refreshToken, bob.refreshToken] ∧
      swept.database.records.map (·.token) = [ann.refreshToken] ∧
      (step .lenient closed .epoch (.validateToken ann.refreshToken)).1 = .ok (.claims claims) ∧
      (step .lenient swept .epoch (.validateToken ann.refreshToken)).1 = .ok (.claims claims) := by
  obtain ⟨history, state, ann, bob, hentered⟩ := exists_entered
  obtain ⟨hash, other, -, -, hrows⟩ := hentered.rows
  have hcalm := hentered.deployed.twins.undisturbed
  let closed := (step .lenient state .epoch (.logoutAll 2)).2
  let swept := (step .lenient closed .epoch .purge).2
  have hfits : Store.fitsColumn 2 = true := by decide
  have hclosedRecords : closed.database.records =
      [⟨1, 1, ann.refreshToken, { micros := 604800000000 }, .epoch, none⟩,
        ⟨2, 2, bob.refreshToken, { micros := 604800000000 }, .epoch, some .epoch⟩] := by
    rw [(step_logoutAll .lenient hcalm .epoch hfits).2, hrows]
    rfl
  have hclosedRun := hentered.run.snoc .epoch (.logoutAll 2)
  have hclosedCalm : closed.disturbances = [] := (hclosedRun.supplied rfl).undisturbed
  have hsweptRecords : swept.database.records =
      [⟨1, 1, ann.refreshToken, { micros := 604800000000 }, .epoch, none⟩] := by
    rw [(step_purge .lenient hclosedCalm .epoch).2, Database.sweep, hclosedRecords]
    rfl
  have hlive : (closed.database.liveRecord? ann.refreshToken .epoch).isSome = true := by
    have hweek : (0 : Int) < 604800000000 := by decide
    refine Database.liveRecord?_isSome.mpr ?_
    rw [hclosedRecords]
    exact ⟨_, List.mem_cons_self, rfl, rfl, hweek⟩
  obtain ⟨claims, -, hchecked⟩ := hentered.annServed.checks hclosedCalm hlive
  have hplain := hclosedRun.snoc .epoch (.validateToken ann.refreshToken)
  have hswept := (hclosedRun.snoc .epoch .purge).snoc .epoch (.validateToken ann.refreshToken)
  have hsteady := (sweeps_invisible Token.unaryId_injective hplain hswept
    (by simp [requestsOf, Entry.request, Call.isSweep])
    (.of_moments .epoch (by simp [hentered.moments]))
    (.of_moments .epoch (by simp [hentered.moments]))).1
  have hsame : (step .lenient swept .epoch (.validateToken ann.refreshToken)).1 =
      (step .lenient closed .epoch (.validateToken ann.refreshToken)).1 := by
    simpa [steadyOf, Call.isSteady] using hsteady
  refine ⟨history, state, ann, bob, claims, hentered.run, ?_, ?_, hchecked,
    hsame.trans hchecked⟩
  · exact congrArg (List.map (·.token)) hclosedRecords
  · exact congrArg (List.map (·.token)) hsweptRecords

end AccountSessions
