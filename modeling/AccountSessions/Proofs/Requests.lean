import AccountSessions.Http.Application
import AccountSessions.Proofs.ServiceCalls

/-!
# The parts of a request

Reading a body and checking its fields only look at the request.  Identifying the caller
looks at the database too and may write to the log, but changes no table.  What is answered
in the end is what the handling came to, up to headers, which tell of origins and caches,
unless the address of the request cannot be read: then the state is the same, but nothing
is left of the response.
-/

namespace AccountSessions.Http

open Handling

variable {state : State}

theorem exec_readBody (request : Request) :
    ∃ outcome, ∀ state, exec (readBody request) state = (outcome, state) := by
  unfold readBody
  by_cases habsent :
      (request.body.isEmpty || !((request.header? "content-type").any isJsonType)) = true
  · rw [if_pos habsent]
    exact ⟨_, exec_pure _⟩
  · rw [if_neg habsent]
    cases Json.readBytes request.body with
    | ok body => exact ⟨_, exec_pure body⟩
    | error fault =>
        cases fault with
        | unreadable => exact ⟨_, exec_throw _⟩
        | malformed offset => exact ⟨_, exec_throw _⟩

theorem exec_require {α : Type} (fields : Checked α) :
    ∃ outcome, ∀ state, exec (require fields) state = (outcome, state) := by
  cases fields with
  | sound fields => exact ⟨_, exec_pure fields⟩
  | flawed problems => exact ⟨_, exec_throw _⟩

/-! ## Operations on behalf of a request -/

theorem error_of_mapError_error
    {ε ε' α : Type} {change : ε → ε'} {outcome : Except ε α} {fault : ε'}
    (hfault : outcome.mapError change = .error fault) :
    ∃ cause, outcome = .error cause := by
  cases outcome with
  | ok value => cases hfault
  | error cause => exact ⟨cause, rfl⟩

theorem ends_ofOperation
    {α : Type} {loud : Bool} {operation : Operation α} {before : Except Failure α → Database → Prop}
    {post : Except Rejection α → Database → Prop} (hends : EndsBy loud operation state before)
    (hpost : ∀ outcome database, before outcome database →
      post (outcome.mapError .failed) database) :
    EndsBy loud (ofOperation operation) state post := by
  obtain ⟨outcome, database, ⟨later, hexec, hlater⟩, hbefore⟩ := hends
  refine ⟨outcome.mapError .failed, database, ⟨later, ?_, ?_⟩, hpost _ _ hbefore⟩
  · rw [ofOperation, exec_adapt, hexec]
  · exact hlater.change fun _ => error_of_mapError_error

theorem fst_exec_ofOperation_error
    {α : Type} {operation : Operation α} {failure : Failure}
    (hfails : (exec operation state).1 = .error failure) :
    (exec (ofOperation operation) state).1 = .error (.failed failure) := by
  rw [ofOperation, exec_adapt, hfails]
  rfl

theorem rests_identify
    (hundisturbed : state.disturbances = []) (service : Service) (request : Request) :
    Rests (identify service request) state fun _ database => database = state.database := by
  unfold identify
  cases (request.header? "authorization").bind bearerToken? with
  | none => exact .last (.refl state) (.throw _ state) rfl
  | some token =>
      have hrests : Rests (ofOperation (service.validateToken token)) state
          fun _ database => database = state.database :=
        ends_ofOperation (Service.ends_validateToken hundisturbed service token) fun _ _ h => h.1
      obtain ⟨outcome, database, hyields, rfl⟩ := hrests.yields
      dsimp only
      cases outcome with
      | ok claims => exact .last (.refl state) (.tryCatch hyields) rfl
      | error rejection =>
          refine .tryCatch_error (.refl state) hyields ?_
          intro failed hfailed
          split
          next refusal =>
            by_cases hinvalid : refusal.kind = .invalidToken
            · rw [if_pos hinvalid]
              exact .last hfailed (.throw _ failed) rfl
            · rw [if_neg hinvalid]
              exact .last hfailed (.throw _ failed) rfl
          next => exact .last hfailed (.throw _ failed) rfl

theorem yields_identify
    (hundisturbed : state.disturbances = []) (service : Service) (request : Request) :
    Yields (identify service request) state (exec (identify service request) state).1
      state.database := by
  obtain ⟨outcome, database, ⟨later, hexec, hleads⟩, rfl⟩ :=
    (rests_identify hundisturbed service request).yields
  exact ⟨later, by rw [hexec], hleads⟩

/-! ## Responses -/

/-- The responses are the same up to their headers. -/
structure Response.Tells (response other : Response) : Prop where
  status : response.status = other.status
  body : response.body = other.body

namespace Response.Tells

theorem varying (response : Response) : (CrossOrigin.varying response).Tells response :=
  ⟨rfl, rfl⟩

theorem trans
    {first second third : Response} (hfirst : first.Tells second) (hsecond : second.Tells third) :
    first.Tells third :=
  ⟨hfirst.status.trans hsecond.status, hfirst.body.trans hsecond.body⟩

theorem share (origins : List String) (request : Request) (response : Response) :
    (CrossOrigin.share origins request response).Tells response := by
  unfold CrossOrigin.share
  cases request.header? "origin" with
  | none => exact ⟨rfl, rfl⟩
  | some origin =>
      dsimp only
      split
      · exact ⟨rfl, rfl⟩
      · exact ⟨rfl, rfl⟩

end Response.Tells

namespace Handling

def answer : Except Rejection Response → Response
  | .ok response => response
  | .error rejection => rejection.response

end Handling

/-- What the site sends for a response.  It may add headers, and nothing is left of the
response if the address of the request cannot be read. -/
structure Site.Sends (site : Site) (request : Request) (response sent : Response) : Prop where
  tells : site.reads request = true → sent.Tells response
  bare : site.reads request = false → sent = .bare

namespace Site.Sends

variable {site : Site} {request : Request} {response other sent : Response}

theorem of_tells (htells : sent.Tells response) :
    site.Sends request response (if site.reads request then sent else .bare) where
  tells hreads := by rwa [if_pos hreads]
  bare hunread := by rw [if_neg (Bool.eq_false_iff.mp hunread)]

theorem trans (hsends : site.Sends request response sent) (htells : response.Tells other) :
    site.Sends request other sent where
  tells hreads := (hsends.tells hreads).trans htells
  bare := hsends.bare

/-- Whoever is not told of an error has a request that could be read. -/
theorem reads_of_lt (hsends : site.Sends request response sent) (hstatus : sent.status < 400) :
    site.reads request = true := by
  by_contra hunread
  have hbare : sent.status = 500 :=
    congrArg Response.status (hsends.bare (Bool.eq_false_iff.mpr hunread))
  omega

theorem tells_of_lt (hsends : site.Sends request response sent) (hstatus : sent.status < 400) :
    sent.Tells response :=
  hsends.tells (hsends.reads_of_lt hstatus)

end Site.Sends

theorem run_attend_preflight
    (service : Service) (site : Site) {request : Request}
    (hpreflight : CrossOrigin.isPreflight request = true) (state : State) :
    (attend service site request).run state =
      (.ok (CrossOrigin.preflight site.origins request), state) := by
  unfold attend
  rw [if_pos hpreflight]
  rfl

theorem run_attend
    (service : Service) (site : Site) {request : Request}
    (hpreflight : ¬ CrossOrigin.isPreflight request = true) (state : State) :
    ∃ outcome,
      (attend service site request).run state =
        (outcome, (exec (dispatch service site request) state).2) ∧
      (report outcome).Tells (answer (exec (dispatch service site request) state).1) := by
  unfold attend
  rw [if_neg hpreflight]
  rcases hexec : exec (dispatch service site request) state with ⟨outcome, later⟩
  have hrun : (dispatch service site request).run.run state = (outcome, later) := hexec
  simp only [StateT.run_bind, hrun]
  have hvaried (response : Response) :
      (CrossOrigin.share site.origins request (CrossOrigin.varying response)).Tells response :=
    (Response.Tells.share site.origins request _).trans (.varying response)
  cases outcome with
  | ok response => exact ⟨_, rfl, hvaried response⟩
  | error rejection =>
      cases rejection with
      | failed failure =>
          cases failure with
          | refused refusal => exact ⟨_, rfl, hvaried _⟩
          | broken cause => exact ⟨_, rfl, rfl, rfl⟩
      | invalid | malformed | unreadable | unauthenticated | unknownPath | wrongMethod =>
          exact ⟨_, rfl, hvaried _⟩

theorem run_respond_eq
    (service : Service) (site : Site) (request : Request) (state : State) :
    (respond service site request).run state =
      (if site.reads request then report ((attend service site request).run state).1 else .bare,
        ((attend service site request).run state).2) :=
  rfl

/-- What a request is answered with comes from its handling. -/
theorem run_respond
    (service : Service) (site : Site) {request : Request}
    (hpreflight : ¬ CrossOrigin.isPreflight request = true) (state : State) :
    ∃ response,
      (respond service site request).run state =
        (response, (exec (dispatch service site request) state).2) ∧
      site.Sends request (answer (exec (dispatch service site request) state).1) response := by
  obtain ⟨outcome, hattend, htells⟩ := run_attend service site hpreflight state
  rw [run_respond_eq, hattend]
  dsimp only
  exact ⟨_, rfl, .of_tells htells⟩

theorem respond_state
    (service : Service) (site : Site) (request : Request) (state : State) :
    ((respond service site request).run state).2 =
      if CrossOrigin.isPreflight request = true then state
      else (exec (dispatch service site request) state).2 := by
  rw [run_respond_eq]
  by_cases hpreflight : CrossOrigin.isPreflight request = true
  · rw [if_pos hpreflight, run_attend_preflight service site hpreflight]
  · obtain ⟨outcome, hattend, -⟩ := run_attend service site hpreflight state
    rw [if_neg hpreflight, hattend]

/-- No response is left to a request whose address cannot be read, whatever it has done. -/
theorem respond_unread
    (service : Service) {site : Site} {request : Request} (hunread : site.reads request = false)
    (state : State) :
    ((respond service site request).run state).1 = .bare := by
  rw [run_respond_eq, if_neg (Bool.eq_false_iff.mp hunread)]

theorem exec_liftExcept {ε α : Type} (outcome : Except ε α) (state : State) :
    exec (liftExcept outcome : ExceptT ε (StateM State) α) state = (outcome, state) := by
  cases outcome with
  | ok value => exact exec_pure value state
  | error fault => exact exec_throw fault state

theorem exec_dispatch_elsewhere
    {request : Request} (helsewhere : Route.ofPath? (Target.ofText request.target).path = none)
    (service : Service) (site : Site) (state : State) :
    exec (dispatch service site request) state = (elsewhere site request, state) := by
  have hdispatch : dispatch service site request = liftExcept (elsewhere site request) := by
    unfold dispatch
    rw [helsewhere]
  rw [hdispatch, exec_liftExcept]

/-- What a request does is the same at any site. -/
theorem respond_state_eq
    (service : Service) (site other : Site) (request : Request) (state : State) :
    ((respond service site request).run state).2 =
      ((respond service other request).run state).2 := by
  have hdispatch : (exec (dispatch service site request) state).2 =
      (exec (dispatch service other request) state).2 := by
    cases hpath : Route.ofPath? (Target.ofText request.target).path with
    | some route =>
        unfold dispatch
        rw [hpath]
    | none =>
        rw [exec_dispatch_elsewhere hpath, exec_dispatch_elsewhere hpath]
  rw [respond_state, respond_state, hdispatch]

/-! ## Requests that come to a route -/

structure Request.Asks (request : Request) (route : Route) : Prop where
  path : Route.ofPath? (Target.ofText request.target).path = some route
  method : request.method = route.method

namespace Request.Asks

variable {request : Request} {route : Route} (hasks : request.Asks route)

include hasks

theorem dispatch_eq (service : Service) (site : Site) :
    dispatch service site request = route.serve service request := by
  unfold dispatch
  rw [hasks.path]
  dsimp only
  rw [if_pos hasks.method]

theorem not_preflight : ¬ CrossOrigin.isPreflight request = true := by
  have hother : route.method ≠ "OPTIONS" := by
    cases route with
    | health | register | login | refresh | logout | logoutAll | identity => decide
  simp [CrossOrigin.isPreflight, hasks.method, hother]

theorem respond_sends (service : Service) (site : Site) (state : State) :
    ∃ response,
      (respond service site request).run state =
        (response, (exec (route.serve service request) state).2) ∧
      site.Sends request (answer (exec (route.serve service request) state).1) response := by
  rw [← hasks.dispatch_eq service site]
  exact run_respond service site hasks.not_preflight state

/-- A rejection other than a breakdown is answered in full. -/
theorem respond_rejected
    {service : Service} {rejection : Rejection}
    (hserve : (exec (route.serve service request) state).1 = .error rejection)
    (hmild : ∀ cause, rejection ≠ .failed (.broken cause)) {site : Site}
    (hreads : site.reads request = true) :
    ((respond service site request).run state).1 =
      CrossOrigin.share site.origins request (CrossOrigin.varying rejection.response) := by
  rw [← hasks.dispatch_eq service site] at hserve
  rw [run_respond_eq, if_pos hreads]
  unfold attend
  rw [if_neg hasks.not_preflight]
  rcases hexec : exec (dispatch service site request) state with ⟨outcome, later⟩
  have hrun : (dispatch service site request).run.run state = (outcome, later) := hexec
  rw [hexec] at hserve
  dsimp only at hserve
  simp only [StateT.run_bind, hrun, hserve]
  cases rejection with
  | failed failure =>
      cases failure with
      | refused refusal => rfl
      | broken cause => exact absurd rfl (hmild cause)
  | invalid | malformed | unreadable | unauthenticated | unknownPath | wrongMethod => rfl

theorem respond_refused
    {service : Service} {refusal : Refusal}
    (hserve : (exec (route.serve service request) state).1 =
      .error (.failed (.refused refusal))) {site : Site} (hreads : site.reads request = true) :
    ((respond service site request).run state).1 =
      CrossOrigin.share site.origins request
        (CrossOrigin.varying (Rejection.refusalResponse refusal)) :=
  hasks.respond_rejected hserve (by rintro _ ⟨⟩) hreads

end Request.Asks

end AccountSessions.Http
