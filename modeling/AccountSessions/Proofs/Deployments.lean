import AccountSessions.Proofs.Enrolments
import AccountSessions.Proofs.Keeping
import AccountSessions.Proofs.RecordOwners
import AccountSessions.Proofs.Submissions

/-!
# Deployments

A deployed service answers requests, is looked after by command lines and has addresses
verified.  All tokens then have numbers of their own and all accounts have names of their
own, and an account that has been enrolled is found by its names until it is blocked.
-/

namespace AccountSessions

/-! ## Doings -/

/-- What happens to a deployed service.  A command line is run with the service or with
one that is built from settings. -/
inductive Doing where
  | request (site : Http.Site) (request : Http.Request)
  | command (settings : Option Settings) (arguments : List String)
  | verification (userId : Int)

namespace Doing

/-- The state that the doing leaves behind at the moment. -/
def after (service : Service) (state : State) (moment : Moment) : Doing → State
  | request site sent =>
      ((Http.respond service site sent).run { state with now := moment }).2
  | command settings arguments => (Deed.command settings arguments).after service state moment
  | verification userId => (Deed.call (.verifyEmail userId)).after service state moment

/-- The call that is made past the requests. -/
def call? (db : Database) : Doing → Option Call
  | request _ _ => none
  | command _ arguments => Console.call? db arguments
  | verification userId => some (.verifyEmail userId)

end Doing

theorem Console.administrative_of_call?
    {db : Database} {arguments : List String} {call : Call}
    (hcall : Console.call? db arguments = some call) :
    call.Administrative := by
  unfold Console.call? at hcall
  split at hcall
  next =>
    injection hcall with hcall
    rw [← hcall]
    trivial
  next command identifier _ =>
    obtain ⟨account, -, rfl⟩ := Option.map_eq_some_iff.mp hcall
    cases command with
    | verifyEmail | revokeSessions | listSessions | deactivateUser | activateUser => trivial
  next => cases hcall

theorem Doing.administrative_of_call?
    {db : Database} {doing : Doing} {call : Call} (hcall : doing.call? db = some call) :
    call.Administrative := by
  cases doing with
  | request site sent => cases hcall
  | command settings arguments => exact Console.administrative_of_call? hcall
  | verification userId =>
      injection hcall with hcall
      rw [← hcall]
      trivial

/-! ## What doings keep -/

theorem Deed.keeps_source
    {inv : State → Prop}
    (hquiet : ∀ (state : State) (moment : Moment) (later : State), inv state →
      Follows { state with now := moment } state.database later → inv later)
    {service : Service} (settings : Option Settings) :
    Keeps inv (Deed.source service settings) := by
  intro state hinv
  obtain ⟨outcome, _, ⟨later, hexec, hleads⟩, rfl⟩ :=
    (Deed.rests_source service settings state).yields
  rw [hexec]
  exact hquiet state state.now later hinv hleads.toFollows

theorem Deed.keeps_command
    {inv : State → Prop} (hundisturbed : ∀ state, inv state → state.disturbances = [])
    (hquiet : ∀ (state : State) (moment : Moment) (later : State), inv state →
      Follows { state with now := moment } state.database later → inv later)
    {state : State} (hinv : inv state) {service : Service} {settings : Option Settings}
    {arguments : List String}
    (hmade : ∀ (user : Service) (call : Call),
      Console.call? state.database arguments = some call → Keeps inv (call.perform user))
    (moment : Moment) :
    inv ((Deed.command settings arguments).after service state moment) :=
  Console.run_keeps hundisturbed (Deed.keeps_source hquiet settings)
    (Deed.rests_source service settings _) hmade (hquiet state moment _ hinv (.refl _))

/-- What is kept by the calls that requests hand on and by the call that the doing makes
is kept by the doing. -/
theorem Doing.keeps
    {inv : State → Prop} (hundisturbed : ∀ state, inv state → state.disturbances = [])
    (hquiet : ∀ (state : State) (moment : Moment) (later : State), inv state →
      Follows { state with now := moment } state.database later → inv later)
    {service : Service}
    (hsubmitted : ∀ call : Call, call.Submitted → Keeps inv (call.perform service))
    {state : State} (hinv : inv state) {doing : Doing}
    (hmade : ∀ (user : Service) (call : Call), doing.call? state.database = some call →
      Keeps inv (call.perform user))
    (moment : Moment) :
    inv (doing.after service state moment) := by
  let start : State := { state with now := moment }
  have hnow : inv start := hquiet state moment start hinv (.refl start)
  cases doing with
  | request site sent => exact Http.respond_keeps hundisturbed hsubmitted site sent hnow
  | command settings arguments => exact Deed.keeps_command hundisturbed hquiet hinv hmade moment
  | verification userId => exact hmade service (.verifyEmail userId) rfl start hnow

theorem keeps_of_effect
    {keeps : Database → Prop} {user : Service} {call : Call}
    (hstep : ∀ {ids now db later outcome}, Effect user ids now db call outcome later →
      keeps db → keeps later) :
    Keeps (fun state => state.disturbances = [] ∧ keeps state.database) (call.perform user) := by
  rintro state ⟨hundisturbed, hkeeps⟩
  obtain ⟨heffect, hfollows⟩ := (effect_of_perform hundisturbed user call).apply
  exact ⟨hfollows.disturbances.trans hundisturbed, hstep heffect hkeeps⟩

/-! ## Rows of doings -/

/-- The states that doings lead to, each of them allowed and at its own moment. -/
inductive Proceeds (service : Service) (allowed : Database → Doing → Prop) (start : State) :
    State → Prop where
  | start : Proceeds service allowed start start
  | doing {state : State} (hproceeds : Proceeds service allowed start state) (moment : Moment)
      (doing : Doing) (hallowed : allowed state.database doing) :
      Proceeds service allowed start (doing.after service state moment)

/-- The states that any doings lead to. -/
abbrev Visited (service : Service) (start : State) : State → Prop :=
  Proceeds service (fun _ _ => True) start

/-- The states that doings lead to that do not block the user. -/
abbrev Onward (service : Service) (userId : Int) (start : State) : State → Prop :=
  Proceeds service (fun db doing => doing.call? db ≠ some (.deactivate userId)) start

namespace Proceeds

variable {service : Service} {allowed : Database → Doing → Prop} {start state : State}

/-- A call that doings of the row can come to. -/
def Makes (allowed : Database → Doing → Prop) (call : Call) : Prop :=
  ∃ db doing, allowed db doing ∧ doing.call? db = some call

theorem keeps
    (inv : State → Prop) (hundisturbed : ∀ state, inv state → state.disturbances = [])
    (hquiet : ∀ (state : State) (moment : Moment) (later : State), inv state →
      Follows { state with now := moment } state.database later → inv later)
    (hsubmitted : ∀ call : Call, call.Submitted → Keeps inv (call.perform service))
    (hmade : ∀ (user : Service) (call : Call), Makes allowed call → Keeps inv (call.perform user))
    (hproceeds : Proceeds service allowed start state) (hstart : inv start) :
    inv state := by
  induction hproceeds with
  | start => exact hstart
  | doing hproceeds moment doing hallowed ih =>
      exact Doing.keeps hundisturbed hquiet hsubmitted ih
        (fun user call hcall => hmade user call ⟨_, doing, hallowed, hcall⟩) moment

/-- A condition on the database that is kept by the effects of the calls. -/
theorem keeps_database
    (keeps : Database → Prop)
    (hstep : ∀ (user : Service) (call : Call), call.Submitted ∨ Makes allowed call →
      ∀ {ids now db later outcome}, Effect user ids now db call outcome later →
        keeps db → keeps later)
    (hproceeds : Proceeds service allowed start state) (hundisturbed : start.disturbances = [])
    (hstart : keeps start.database) :
    state.disturbances = [] ∧ keeps state.database := by
  refine hproceeds.keeps (fun state => state.disturbances = [] ∧ keeps state.database)
    (fun _ hinv => hinv.1) ?_ ?_ ?_ ⟨hundisturbed, hstart⟩
  · intro state moment later hinv hfollows
    rw [hfollows.database]
    exact ⟨hfollows.disturbances.trans hinv.1, hinv.2⟩
  · exact fun call hsubmitted => keeps_of_effect (hstep service call (.inl hsubmitted))
  · exact fun user call hmade => keeps_of_effect (hstep user call (.inr hmade))

/-- Names come from registrations over requests, so they stay unmixed. -/
theorem named
    (hproceeds : Proceeds service allowed start state) (hundisturbed : start.disturbances = [])
    (hnamed : Named start.database.accounts) :
    Named state.database.accounts := by
  refine (hproceeds.keeps_database (fun db => Named db.accounts) ?_ hundisturbed hnamed).2
  intro user call hsource ids now db later outcome heffect hnamed
  refine heffect.named ?_ hnamed
  rintro username email password name rfl
  rcases hsource with ⟨body, hread⟩ | ⟨db, doing, -, hcall⟩
  · exact Http.Registration.unmixed hread
  · exact (Doing.administrative_of_call? hcall).elim

theorem undisturbed
    (hproceeds : Proceeds service allowed start state) (hundisturbed : start.disturbances = []) :
    state.disturbances = [] :=
  (hproceeds.keeps_database (fun _ => True) (fun _ _ _ _ _ _ _ _ _ h => h) hundisturbed
    trivial).1

end Proceeds

/-! ## Deployed services -/

namespace Deployed

variable {service : Service} {ids : Nat → String}

theorem proceeds
    {start state : State} {allowed : Database → Doing → Prop}
    (hdeployed : Deployed service ids start) (hids : Function.Injective ids)
    (hproceeds : Proceeds service allowed start state) :
    Deployed service ids state where
  twins := by
    refine hproceeds.keeps (fun state => Twins service ids state state)
      (fun _ htwins => htwins.undisturbed) (fun _ _ _ htwins hfollows => htwins.of_follows hfollows)
      ?_ ?_ hdeployed.twins
    · exact fun call _ state htwins => htwins.perform hids call
    · rintro user call ⟨db, doing, -, hcall⟩ state htwins
      exact htwins.perform_administrative user (Doing.administrative_of_call? hcall)
  named := hproceeds.named hdeployed.twins.undisturbed hdeployed.named

end Deployed

/-- An account stays enrolled as long as its user is not blocked. -/
theorem Onward.enrolled
    {service : Service} {userId : Int} {start state : State}
    (honward : Onward service userId start state) (hundisturbed : start.disturbances = [])
    {username email hash : String} {verified : Bool}
    (henrolled : Enrolled userId username email hash verified start.database.accounts) :
    Enrolled userId username email hash verified state.database.accounts := by
  refine (honward.keeps_database
    (fun db => Enrolled userId username email hash verified db.accounts) ?_
    hundisturbed henrolled).2
  intro user call hsource ids now db later outcome heffect henrolled
  refine henrolled.effect heffect ?_
  rintro rfl
  rcases hsource with hsubmitted | ⟨db, doing, hallowed, hcall⟩
  · exact hsubmitted
  · exact hallowed hcall

end AccountSessions
