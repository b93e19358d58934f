import AccountSessions.Proofs.ComparedCalls
import AccountSessions.Proofs.ConsoleReports
import AccountSessions.Proofs.SmallDeployment

/-!
# Publishers

A publisher hears of every registration, login and logout that succeeds, and of nothing
else.  Whether it keeps the events, logs them or fails on each of them makes no
difference to what the service answers and to what it stores.
-/

namespace AccountSessions

/-! ## Tasks -/

/-- What is asked of a service: a call, or a command line that works with it. -/
inductive Task where
  | call (call : Call)
  | command (arguments : List String)

inductive Report where
  | answered (answer : Answer)
  | printed (outcome : Console.Outcome)

namespace Task

def perform (service : Service) : Task → Operation Report
  | call made => .answered <$> made.perform service
  | command arguments => .printed <$> Console.run (pure service) arguments

/-- The call that the task comes to on the database. -/
def call? (db : Database) : Task → Option Call
  | call made => some made
  | command arguments => Console.call? db arguments

/-- What the service announces when it does the task in this state. -/
def told? (service : Service) (state : State) (task : Task) : Option Event :=
  (task.call? state.database).bind fun call =>
    call.told? state.now (exec (call.perform service) state).1

/-- The report on a task is made of the outcome of its call. -/
theorem exists_report
    {db : Database} {task : Task} {call : Call} (hcall : task.call? db = some call) :
    ∃ render : Moment → Except Failure Answer → Except Failure Report,
      ∀ (service : Service) (state : State), state.disturbances = [] → state.database = db →
      exec (task.perform service) state =
        (render (exec (call.perform service) state).2.now (exec (call.perform service) state).1,
          (exec (call.perform service) state).2) := by
  cases task with
  | call made =>
      obtain rfl := Option.some.inj hcall
      exact ⟨fun _ outcome => outcome.map .answered, fun service state _ _ => exec_map ..⟩
  | command arguments =>
      obtain ⟨render, hrender⟩ := Console.exists_renders_run hcall
      refine ⟨fun now outcome => (render now outcome).map .printed,
        fun service state hundisturbed hdatabase => ?_⟩
      rw [perform, exec_map, hrender service state hundisturbed hdatabase]

theorem exists_printed
    {db : Database} {task : Task} (hcall : task.call? db = none) :
    ∃ report, ∀ (service : Service) (state : State), state.disturbances = [] →
      state.database = db → exec (task.perform service) state = (.ok report, state) := by
  cases task with
  | call made => cases hcall
  | command arguments =>
      obtain ⟨outcome, hprinted⟩ := Console.exists_printed_run hcall
      refine ⟨.printed outcome, fun service state hundisturbed hdatabase => ?_⟩
      rw [perform, exec_map, hprinted service state hundisturbed hdatabase]
      rfl

end Task

theorem Call.isSome_told?_map
    {α : Type} {now : Moment} {call : Call} {wrap : α → Answer}
    (hevent : ∀ value, (call.event? now (wrap value)).isSome = true ↔ call.Announces)
    (outcome : Except Failure α) :
    (call.told? now (outcome.map wrap)).isSome = true ↔
      call.Announces ∧ ∃ answer, outcome.map wrap = .ok answer := by
  cases outcome with
  | ok value => exact (hevent value).trans ⟨fun h => ⟨h, wrap value, rfl⟩, And.left⟩
  | error failure => exact ⟨fun h => (nomatch h), fun ⟨_, _, h⟩ => (nomatch h)⟩

/-- An event is told of just the successes that have one. -/
theorem Call.isSome_told? (service : Service) (state : State) (call : Call) :
    (call.told? state.now (exec (call.perform service) state).1).isSome = true ↔
      call.Announces ∧ ∃ answer, (exec (call.perform service) state).1 = .ok answer := by
  cases call with
  | register | verifyEmail | login | refresh | validateToken | logout | logoutAll | deactivate
  | activate | listSessions | purge =>
      rw [perform, exec_map]
      exact isSome_told?_map (fun _ => by simp [event?, Announces]) _

/-! ## What publishers leave behind -/

namespace Publisher

/-- The events that are kept. -/
def kept (events : List Event) : Publisher → List Event
  | recording => events
  | failing => events
  | _ => []

/-- The lines that the publisher writes about the events. -/
def logged (events : List Event) : Publisher → List Log.Line
  | logging => events.map fun event => ⟨.info, .events, Service.eventText event⟩
  | _ => []

/-- The announcements after some events were told. -/
def hears (publisher : Publisher) (heard : List Event × List Log.Line) (events : List Event) :
    List Event × List Log.Line :=
  (heard.1 ++ publisher.kept events, heard.2 ++ publisher.logged events)

end Publisher

def Aside.announced (aside : Aside) : List Event × List Log.Line :=
  (aside.published, aside.log.filter (·.source == .events))

theorem Publisher.announced_tell (publisher : Publisher) (event : Event) (aside : Aside) :
    (publisher.tell event aside).announced = publisher.hears aside.announced [event] := by
  cases publisher with
  | absent | recording | logging | failing =>
      simp [tell, hears, kept, logged, Aside.announced, Aside.noted, Aside.kept]

theorem Publisher.hears_append
    (publisher : Publisher) (heard : List Event × List Log.Line) (events more : List Event) :
    publisher.hears (publisher.hears heard events) more =
      publisher.hears heard (events ++ more) := by
  cases publisher with
  | absent | recording | logging | failing => simp [hears, kept, logged]

theorem Publisher.hears_nil (publisher : Publisher) (heard : List Event × List Log.Line) :
    publisher.hears heard [] = heard := by
  cases publisher with
  | absent | recording | logging | failing => simp [hears, kept, logged]

/-! ## One task -/

/-- A service compared to itself with another publisher, which has heard of this before. -/
def Comparison.ofPublisher
    (service : Service) (publisher : Publisher) (heard : List Event × List Log.Line) :
    Comparison service { service with publisher } where
  hashes := Eq
  aside before after := after.saltsDrawn = before.saltsDrawn ∧ after.announced = heard
  told event before after :=
    after.saltsDrawn = before.saltsDrawn ∧ after.announced = publisher.hears heard [event]
  issuer := rfl
  policy := rfl
  noted line hsource hbefore := by
    have hother : (line.source == .events) = false := beq_eq_false_iff_ne.mpr hsource
    simpa [Aside.noted, Aside.announced, List.filter_append, hother] using hbefore
  salted hbefore := ⟨congrArg (· + 1) hbefore.1, hbefore.2⟩
  tell event hbefore := by
    refine ⟨?_, by rw [Publisher.announced_tell, hbefore.2]⟩
    have hkeeps (publisher : Publisher) (aside : Aside) :
        (publisher.tell event aside).saltsDrawn = aside.saltsDrawn := by
      cases publisher with
      | absent | recording | logging | failing => rfl
    rw [hkeeps, hkeeps, hbefore.1]

/-- Undisturbed states that differ at most in the log and in the kept events, and what
publishers have announced in the second. -/
def Muted (now : Moment) (heard : List Event × List Log.Line) (state twin : State) : Prop :=
  Beside Eq (fun before after => after.saltsDrawn = before.saltsDrawn ∧ after.announced = heard)
    now state twin

namespace Muted

variable {now : Moment} {heard : List Event × List Log.Line} {state twin : State}

theorem of_after
    {service : Service} {publisher : Publisher} {event? : Option Event}
    (hafter : (Comparison.ofPublisher service publisher heard).After now event? state twin) :
    Muted now (publisher.hears heard event?.toList) state twin := by
  cases event? with
  | some event => exact hafter
  | none =>
      rw [Option.toList_none, Publisher.hears_nil]
      exact hafter

theorem pairs
    (hmuted : Muted now heard state twin) (service : Service) (publisher : Publisher)
    (call : Call) :
    (Comparison.ofPublisher service publisher heard).Pairs state twin call call := by
  cases call with
  | register username email password name =>
      refine .register rfl fun _ _ => ?_
      have hsalts : twin.saltsDrawn = state.saltsDrawn := hmuted.aside.1
      have hsame : ({ service with publisher } : Service).hashed twin password =
          service.hashed state password := by
        rw [Service.hashed, Service.hashed, hsalts]
      rw [hsame]
      cases service.hashed state password with
      | ok hash => exact .ok rfl
      | error cause => exact .error cause
  | login identifier password =>
      refine .login ?_
      have hsame : ({ service with publisher } : Service).verdict? twin.database identifier
          password = service.verdict? state.database identifier password := by
        rw [hmuted.databases.eq]
        rfl
      rw [hsame]
      cases service.verdict? state.database identifier password with
      | none => exact .none
      | some verdict => exact .some (.refl verdict)
  | _ => exact .same id

/-- A task is reported alike, and its event, if any, is announced. -/
theorem perform_task
    (hmuted : Muted now heard state twin) (service : Service) (publisher : Publisher)
    (task : Task) :
    let other : Service := { service with publisher }
    (exec (task.perform other) twin).1 = (exec (task.perform service) state).1 ∧
      Muted now (publisher.hears heard (task.told? service state).toList)
        (exec (task.perform service) state).2 (exec (task.perform other) twin).2 := by
  intro other
  have hdatabase := hmuted.databases.eq
  unfold Task.told?
  cases hcall : task.call? state.database with
  | none =>
      obtain ⟨report, hreport⟩ := Task.exists_printed hcall
      rw [hreport service state hmuted.undisturbed rfl,
        hreport other twin hmuted.twinUndisturbed hdatabase, Option.bind_none, Option.toList_none,
        Publisher.hears_nil]
      exact ⟨rfl, hmuted⟩
  | some call =>
      obtain ⟨render, hreport⟩ := Task.exists_report hcall
      have hholds : (Comparison.ofPublisher service publisher heard).Holds now state twin := hmuted
      obtain ⟨houtcome, hafter⟩ :=
        Comparison.perform_eq hholds (hmuted.pairs service publisher call)
      have hlater := of_after hafter
      rw [hreport service state hmuted.undisturbed rfl,
        hreport other twin hmuted.twinUndisturbed hdatabase, Option.bind_some, hmuted.clock]
      dsimp only
      rw [houtcome, hlater.clock, hlater.twinClock]
      exact ⟨rfl, hlater⟩

theorem atMoment (hmuted : Muted now heard state twin) (moment : Moment) :
    Muted moment heard { state with now := moment } { twin with now := moment } :=
  { hmuted with
    clock := rfl
    twinClock := rfl }

end Muted

/-! ## Runs of tasks -/

namespace Service

/-- The reports on the tasks, each at its moment, with the database behind each. -/
def observed (service : Service) : State → List (Moment × Task) →
    List (Except Failure Report × Database)
  | _, [] => []
  | state, (moment, task) :: tasks =>
    let (report, later) := exec (task.perform service) { state with now := moment }
    (report, later.database) :: service.observed later tasks

/-- The state behind the tasks. -/
def after (service : Service) : State → List (Moment × Task) → State
  | state, [] => state
  | state, (moment, task) :: tasks =>
    service.after (exec (task.perform service) { state with now := moment }).2 tasks

/-- What the service announces in the course of the tasks, in order. -/
def told (service : Service) : State → List (Moment × Task) → List Event
  | _, [] => []
  | state, (moment, task) :: tasks =>
    let begun : State := { state with now := moment }
    (task.told? service begun).toList ++ service.told (exec (task.perform service) begun).2 tasks

end Service

theorem Muted.run
    {now : Moment} {heard : List Event × List Log.Line} {state twin : State}
    (hmuted : Muted now heard state twin) (service : Service) (publisher : Publisher)
    (tasks : List (Moment × Task)) :
    let other : Service := { service with publisher }
    other.observed twin tasks = service.observed state tasks ∧
      (other.after twin tasks).announcements =
        publisher.hears heard (service.told state tasks) := by
  intro other
  induction tasks generalizing now heard state twin with
  | nil =>
      rw [Service.told, Publisher.hears_nil]
      exact ⟨rfl, hmuted.aside.2⟩
  | cons entry tasks ih =>
      obtain ⟨moment, task⟩ := entry
      obtain ⟨hreport, hlater⟩ := (hmuted.atMoment moment).perform_task service publisher task
      obtain ⟨hobserved, hannounced⟩ := ih hlater
      refine ⟨?_, ?_⟩
      · simp only [Service.observed]
        rw [hobserved, hreport, hlater.databases.eq]
      · rw [Service.after, hannounced, Publisher.hears_append]
        rfl

/-- Every publisher leaves all reports and all databases as they are, and it hears of the
successes that have an event, in order and of nothing else. -/
theorem publisher_transparent
    (service : Service) {start : State} (hundisturbed : start.disturbances = [])
    (tasks : List (Moment × Task)) :
    (∀ publisher : Publisher,
      ({ service with publisher } : Service).observed start tasks = service.observed start tasks) ∧
    (service.after start tasks).announcements =
      (start.published ++ service.publisher.kept (service.told start tasks),
        start.log.filter (·.source == .events) ++
          service.publisher.logged (service.told start tasks)) := by
  have hmuted : Muted start.now start.announcements start start :=
    ⟨hundisturbed, hundisturbed, rfl, rfl, rfl, .refl (fun _ => rfl) _, rfl, rfl⟩
  refine ⟨fun publisher => (hmuted.run service publisher tasks).1, ?_⟩
  exact (hmuted.run service service.publisher tasks).2

/-- A publisher that fails hears of a logout from everywhere that a command line makes, and
not of a verification that is refused. -/
theorem publisher_transparent_of_failing :
    let service : Service := { Service.lenient with publisher := .failing }
    let ann : Account := ⟨1, "ann", "a@b.org", "", "Ann", true, true, none, .epoch, .epoch⟩
    let start : State := { State.start .epoch with database := ⟨[ann], []⟩ }
    let tasks : List (Moment × Task) :=
      [(.epoch, .call (.verifyEmail 7)), (.epoch, .command ["revoke-sessions", "ann"])]
    let events : List Event := [⟨.loggedOutEverywhere, 1, .epoch, .revoked 0⟩]
    start.disturbances = [] ∧ service.told start tasks = events ∧
      (service.after start tasks).announcements = (events, []) ∧
      ∀ publisher : Publisher,
        ({ service with publisher } : Service).observed start tasks =
          service.observed start tasks := by
  intro service ann start tasks events
  have htold : service.told start tasks = events := by decide +kernel
  obtain ⟨hobserved, hannounced⟩ :=
    publisher_transparent service (show start.disturbances = [] from rfl) tasks
  rw [htold] at hannounced
  exact ⟨rfl, htold, hannounced, hobserved⟩

end AccountSessions
