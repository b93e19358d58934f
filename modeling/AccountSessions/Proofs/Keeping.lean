import AccountSessions.Proofs.Commands
import AccountSessions.Proofs.Requests

/-!
# What requests and commands keep

A condition on states that every call keeps is kept by every request and every command
line, whatever becomes of it: a request hands at most one call on, with values that have
passed its checks, and so does a command line, for the user that it names.
-/

namespace AccountSessions

/-! ## Conditions that an operation keeps -/

/-- If the condition holds before the operation, it holds after it, also when it fails. -/
def Keeps {ε α : Type} (inv : State → Prop) (action : ExceptT ε (StateM State) α) : Prop :=
  ∀ state, inv state → inv (exec action state).2

namespace Keeps

variable {ε α β : Type} {inv : State → Prop}

theorem pure (value : α) : Keeps inv (Pure.pure value : ExceptT ε (StateM State) α) :=
  fun _ hinv => hinv

theorem throw (fault : ε) : Keeps inv (MonadExcept.throw fault : ExceptT ε (StateM State) α) :=
  fun _ hinv => hinv

theorem bind
    {first : ExceptT ε (StateM State) α} {next : α → ExceptT ε (StateM State) β}
    (hfirst : Keeps inv first) (hnext : ∀ value, Keeps inv (next value)) :
    Keeps inv (first >>= next) := by
  intro state hinv
  have hlater := hfirst state hinv
  rw [exec_bind]
  rcases hexec : exec first state with ⟨outcome, later⟩
  rw [hexec] at hlater
  cases outcome with
  | ok value => exact hnext value later hlater
  | error fault => exact hlater

theorem tryCatch
    {action : ExceptT ε (StateM State) α} {handler : ε → ExceptT ε (StateM State) α}
    (haction : Keeps inv action) (hhandler : ∀ fault, Keeps inv (handler fault)) :
    Keeps inv (MonadExcept.tryCatch action handler) := by
  intro state hinv
  have hlater := haction state hinv
  rw [exec_tryCatch]
  rcases hexec : exec action state with ⟨outcome, later⟩
  rw [hexec] at hlater
  cases outcome with
  | ok value => exact hlater
  | error fault => exact hhandler fault later hlater

theorem of_map {action : ExceptT ε (StateM State) α} {change : α → β}
    (hkeeps : Keeps inv (change <$> action)) :
    Keeps inv action := by
  intro state hinv
  have hlater := hkeeps state hinv
  rwa [exec_map] at hlater

theorem get_bind {next : State → Operation α}
    (hnext : ∀ state, inv state → inv (exec (next state) state).2) :
    Keeps inv (get >>= next) := by
  intro state hinv
  rw [exec_bind, exec_get]
  exact hnext state hinv

/-- A call of the store that is disturbed still does its work, or nothing. -/
theorem guarded {operation : Operation α} (hoperation : Keeps inv operation) (call : StoreCall) :
    Keeps inv (Store.guarded call operation operation operation) := by
  refine .get_bind ?_
  intro state hinv
  split
  next => exact hoperation state hinv
  next => exact hinv
  next => exact hoperation state hinv
  next => exact hoperation state hinv

/-- An operation that only looks at the state. -/
theorem of_exec
    {action : ExceptT ε (StateM State) α}
    (hexec : ∀ state, inv state → (exec action state).2 = state) :
    Keeps inv action := by
  intro state hinv
  rw [hexec state hinv]
  exact hinv

end Keeps

/-! ## Requests -/

namespace Call

/-- The calls that a request can hand on, with values that its body may hold. -/
def Submitted : Call → Prop
  | register username email password name =>
      ∃ body, Http.Registration.read body = .sound ⟨username, email, password, name⟩
  | login _ _ => True
  | refresh _ => True
  | validateToken _ => True
  | logout _ _ => True
  | logoutAll _ => True
  | _ => False

end Call

namespace Http

open Handling

section Requests

variable {inv : State → Prop} (hundisturbed : ∀ state, inv state → state.disturbances = [])
  {service : Service}
  (hcalls : ∀ call : Call, call.Submitted → Keeps inv (call.perform service))

theorem keeps_readBody (request : Request) : Keeps inv (readBody request) := by
  refine .of_exec ?_
  intro state _
  obtain ⟨outcome, hexec⟩ := exec_readBody request
  rw [hexec]

theorem keeps_require {α : Type} (fields : Checked α) : Keeps inv (require fields) := by
  refine .of_exec ?_
  intro state _
  obtain ⟨outcome, hexec⟩ := exec_require fields
  rw [hexec]

theorem keeps_ofOperation {α : Type} {operation : Operation α} (hkeeps : Keeps inv operation) :
    Keeps inv (ofOperation operation) :=
  fun state hinv => hkeeps state hinv

include hundisturbed in
theorem keeps_probe : Keeps inv probe := by
  refine .tryCatch (.of_exec ?_) ?_
  · intro state hinv
    rw [Store.ping, Store.exec_guarded (hundisturbed state hinv)]
    rfl
  · intro failure
    split
    · exact .pure _
    · exact .throw _

include hcalls

theorem keeps_identify (request : Request) : Keeps inv (identify service request) := by
  unfold identify
  cases (request.header? "authorization").bind bearerToken? with
  | none => exact .throw _
  | some token =>
      refine .tryCatch (keeps_ofOperation (hcalls (.validateToken token) trivial).of_map) ?_
      intro rejection
      split
      · split
        · exact .throw _
        · exact .throw _
      · exact .throw _

include hundisturbed

theorem keeps_serve (request : Request) (route : Route) :
    Keeps inv (route.serve service request) := by
  unfold Route.serve
  cases route with
  | health => exact (keeps_ofOperation (keeps_probe hundisturbed)).bind fun _ => .pure _
  | register =>
      refine (keeps_readBody request).bind fun body => ?_
      intro state hinv
      cases hread : Registration.read body with
      | flawed problems => exact hinv
      | sound form =>
          have hregister := hcalls
            (.register form.username form.email form.password form.name) ⟨body, hread⟩
          exact ((keeps_ofOperation hregister.of_map).bind fun _ => .pure _) state hinv
  | login =>
      refine (keeps_readBody request).bind fun body => (keeps_require _).bind fun form => ?_
      exact (keeps_ofOperation (hcalls (.login form.identifier form.password) trivial).of_map).bind
        fun _ => .pure _
  | refresh =>
      refine (keeps_readBody request).bind fun body => (keeps_require _).bind fun form => ?_
      exact (keeps_ofOperation (hcalls (.refresh form.refreshToken) trivial).of_map).bind
        fun _ => .pure _
  | logout =>
      refine (keeps_readBody request).bind fun body => (keeps_identify hcalls request).bind
        fun claims => (keeps_require _).bind fun form => ?_
      exact (keeps_ofOperation
        (hcalls (.logout claims.userId form.refreshToken) trivial).of_map).bind fun _ => .pure _
  | logoutAll =>
      refine (keeps_identify hcalls request).bind fun claims => ?_
      exact (keeps_ofOperation (hcalls (.logoutAll claims.userId) trivial).of_map).bind
        fun _ => .pure _
  | identity =>
      refine (keeps_identify hcalls request).bind fun claims => ?_
      cases claimsToJson claims with
      | sound body => exact .pure _
      | flawed problems => exact .throw _

theorem keeps_dispatch (site : Site) (request : Request) :
    Keeps inv (dispatch service site request) := by
  cases hpath : Route.ofPath? (Target.ofText request.target).path with
  | some route =>
      unfold dispatch
      rw [hpath]
      dsimp only
      split
      · exact keeps_serve hundisturbed hcalls request route
      · exact .throw _
  | none =>
      refine .of_exec fun state _ => ?_
      rw [exec_dispatch_elsewhere hpath]

theorem respond_keeps
    (site : Site) (request : Request) {state : State} (hinv : inv state) :
    inv ((respond service site request).run state).2 := by
  rw [respond_state]
  split
  · exact hinv
  · exact keeps_dispatch hundisturbed hcalls site request state hinv

end Requests

end Http

/-! ## Command lines -/

namespace Console

/-- What a command for a user asks the service to do. -/
def UserCommand.call (userId : Int) : UserCommand → Call
  | verifyEmail => .verifyEmail userId
  | revokeSessions => .logoutAll userId
  | listSessions => .listSessions userId
  | deactivateUser => .deactivate userId
  | activateUser => .activate userId

/-- The call that a command line makes on the database, if it names a user that is there. -/
def call? (db : Database) (arguments : List String) : Option Call :=
  match Request.ofArguments arguments with
  | .command .purgeSessions => some .purge
  | .command (.forUser command identifier) =>
      (db.accountOf? identifier).map fun account => command.call account.id
  | _ => none

variable {inv : State → Prop}

theorem keeps_runForUser
    {user : Service} {id : Int} {command : UserCommand}
    (hcall : Keeps inv ((command.call id).perform user)) (identifier : String) :
    Keeps inv (runForUser user identifier id command) := by
  cases command with
  | verifyEmail =>
      refine .tryCatch (hcall.of_map.bind fun _ => .pure _) ?_
      intro failure
      split
      · exact .pure _
      · exact .throw _
  | revokeSessions => exact hcall.of_map.bind fun _ => .pure _
  | listSessions =>
      refine hcall.of_map.bind fun records => ?_
      split
      · exact .pure _
      · exact Keeps.bind (fun _ hinv => hinv) fun _ => .pure _
  | deactivateUser => exact hcall.of_map.bind fun _ => .pure _
  | activateUser => exact hcall.of_map.bind fun _ => .pure _

/-- A command line keeps what the call that it makes keeps. -/
theorem run_keeps
    {source : Operation Service} {arguments : List String} {state : State}
    (hundisturbed : ∀ later, inv later → later.disturbances = [])
    (hsource : Keeps inv source)
    (hsame : Rests source state fun _ database => database = state.database)
    (hcall : ∀ (user : Service) (call : Call), call? state.database arguments = some call →
      Keeps inv (call.perform user))
    (hinv : inv state) :
    inv (exec (run source arguments) state).2 := by
  unfold run
  unfold call? at hcall
  cases hrequest : Request.ofArguments arguments with
  | nothing => exact hinv
  | help form => exact hinv
  | faulty form fault => exact hinv
  | command command =>
      rw [hrequest] at hcall
      have hbuilt := hsource state hinv
      obtain ⟨outcome, database, ⟨later, hexec, hleads⟩, rfl⟩ := hsame.yields
      dsimp only
      rw [hexec] at hbuilt
      rw [exec_bind, hexec]
      cases outcome with
      | error failure => exact hbuilt
      | ok user =>
          cases command with
          | purgeSessions =>
              exact ((hcall user .purge rfl).of_map.bind fun _ => .pure _) later hbuilt
          | forUser command identifier =>
              dsimp only [runCommand] at hcall ⊢
              rw [exec_bind, Store.exec_accountByIdentifier (hundisturbed later hbuilt),
                hleads.database]
              cases haccount : state.database.accountOf? identifier with
              | none => exact hbuilt
              | some account =>
                  have hmade := hcall user (command.call account.id) (by rw [haccount]; rfl)
                  exact keeps_runForUser hmade identifier later hbuilt

end Console

end AccountSessions
