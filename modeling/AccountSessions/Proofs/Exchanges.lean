import AccountSessions.Proofs.Requests
import AccountSessions.Proofs.Submissions
import AccountSessions.Proofs.UntrustedTokens
import AccountSessions.Proofs.WrittenJson

/-!
# Requests and their answers

What a request is answered with when the operation behind its route succeeds, and what
must have happened when it is answered so.
-/

namespace AccountSessions.Http

open Handling

/-! ## Requests with a value -/

/-- The request comes to the route with a value in its body. -/
structure Request.Submits (request : Request) (route : Route) (body : Json) : Prop extends
    request.Asks route where
  nonempty : request.body.isEmpty = false
  type : (request.header? "content-type").any isJsonType = true
  content : Json.readBytes request.body = .ok body

namespace Request.Submits

variable {request : Request} {route : Route} {body : Json} (hsubmits : request.Submits route body)

include hsubmits

theorem exec_readBody (state : State) : exec (readBody request) state = (.ok body, state) := by
  unfold readBody
  rw [hsubmits.nonempty, hsubmits.type, if_neg (by decide), hsubmits.content]
  rfl

end Request.Submits

theorem Rejection.le_status (rejection : Rejection) : 400 ≤ rejection.response.status := by
  cases rejection with
  | failed failure =>
      cases failure with
      | refused refusal =>
          have hkind (kind : Refusal.Kind) : 400 ≤ kind.status := by
            cases kind <;> simp [Refusal.Kind.status]
          have hstatus : (Rejection.refusalResponse refusal).status = refusal.kind.status := by
            unfold refusalResponse
            dsimp only
            split
            · rfl
            · rfl
          have hresponse := hkind refusal.kind
          rw [← hstatus] at hresponse
          exact hresponse
      | broken cause => exact (by decide : 400 ≤ 500)
  | invalid problems => exact (by decide : 400 ≤ 422)
  | malformed offset => exact (by decide : 400 ≤ 422)
  | unreadable => exact (by decide : 400 ≤ 400)
  | unauthenticated => exact (by decide : 400 ≤ 401)
  | unknownPath => exact (by decide : 400 ≤ 404)
  | wrongMethod allowed => exact (by decide : 400 ≤ 405)

/-- The request that posts a form of texts. -/
def Request.posting (target : String) (fields : List (String × String)) : Request where
  method := "POST"
  target := target
  headers := [("Content-Type", "application/json")]
  body := Text.Utf8.encode (Json.record (fields.map fun (name, text) => (name, .text text))).write

theorem Route.ofPath?_path (route : Route) :
    ofPath? (Target.ofText route.path).path = some route := by
  cases route with
  | health | register | login | refresh | logout | logoutAll | identity => decide +kernel

theorem Request.submits_posting
    {route : Route} {target : String} {fields : List (String × String)}
    (htarget : target = route.path) (hmethod : route.method = "POST") (hfields : fields ≠ [])
    (hnames : (fields.map Prod.fst).Nodup) :
    (posting target fields).Submits route
      (.record (fields.map fun (name, text) => (name, .text text))) := by
  let members : List (String × Json) := fields.map fun (name, text) => (name, .text text)
  have hlegible : Json.Legible Json.nestingLimit (.record members) := by
    change Json.Legible (969 + 1) _
    refine .record (by simpa [members, Function.comp_def] using hnames) ?_
    intro member hmember
    obtain ⟨field, -, rfl⟩ := List.mem_map.mp hmember
    exact .text field.2
  have hlength : (Text.Utf8.encode (Json.record members).write).length ≠ 0 := by
    rw [Json.length_encode_write hlegible]
    exact Nat.succ_ne_zero _
  have htype : (([("Content-Type", "application/json")].find? fun header =>
      header.1.toLower == "content-type").map Prod.snd).any isJsonType = true := by decide +kernel
  subst htarget
  refine ⟨⟨route.ofPath?_path, hmethod.symm⟩, ?_, htype,
    Json.readBytes_record (by simpa [members] using hfields) hlegible⟩
  exact List.isEmpty_eq_false_iff.mpr fun hempty => hlength (congrArg List.length hempty)

theorem Site.reads_posting (site : Site) (target : String) (fields : List (String × String)) :
    site.reads (.posting target fields) = true := by
  have hhost : (Request.posting target fields).header? "host" = none := by
    have hnone : ([("Content-Type", "application/json")].find? fun header =>
        header.1.toLower == "host") = none := by decide +kernel
    rw [Request.header?, Request.posting, hnone]
    rfl
  rw [reads, hhost]
  rfl

/-! ## Forms that are handed on -/

/-- The request is answered with the outcome of an operation, which runs from a state. -/
def Request.Reaches
    {α : Type} (request : Request) (service : Service) (state : State) (operation : Operation α)
    (start : State) (present : α → Response) : Prop :=
  ∀ site : Site, ∃ response,
    (respond service site request).run state = (response, (exec operation start).2) ∧
    site.Sends request (answer (((exec operation start).1.mapError .failed).map present)) response

/-- The request is turned down and leaves a state. -/
def Request.IsRejected
    (request : Request) (service : Service) (state : State) (rejection : Rejection)
    (later : State) : Prop :=
  ∀ site : Site, ∃ response, (respond service site request).run state = (response, later) ∧
    site.Sends request rejection.response response

/-- The route checks a form and answers with what the operation makes of it. -/
def Route.HandsOn
    {α β : Type} (route : Route) (service : Service) (fields : Json → Checked β)
    (operation : β → Operation α) (present : α → Response) : Prop :=
  ∀ request, route.serve service request = do
    let form ← require (fields (← readBody request))
    return present (← ofOperation (operation form))

namespace Route

variable (service : Service)

theorem handsOn_register :
    register.HandsOn service Registration.read
      (fun form => service.register form.username form.email form.password form.name)
      fun account => .json 201 (Profile.ofAccount account).toJson :=
  fun _ => rfl

theorem handsOn_login :
    login.HandsOn service Credentials.read
      (fun form => service.login form.identifier form.password)
      fun session => (Response.json 200 (Session.toJson session)).unstored :=
  fun _ => rfl

theorem handsOn_refresh :
    refresh.HandsOn service SessionTicket.read (fun form => service.refresh form.refreshToken)
      fun session => (Response.json 200 (Session.toJson session)).unstored :=
  fun _ => rfl

end Route

section Forms

variable {service : Service} {request : Request} {body : Json} {route : Route} {α β : Type}
variable {fields : Json → Checked β} {operation : β → Operation α} {present : α → Response}

theorem exec_answered (operation : Operation α) (state : State) :
    exec (do return present (← ofOperation operation)) state =
      (((exec operation state).1.mapError .failed).map present, (exec operation state).2) := by
  rw [exec_bind, ofOperation, exec_adapt]
  rcases exec operation state with ⟨outcome, later⟩
  cases outcome with
  | ok value => rfl
  | error failure => rfl

variable (hroute : route.HandsOn service fields operation present)

include hroute

theorem Route.HandsOn.exec_serve
    {body : Json} {state : State} (hbody : exec (readBody request) state = (.ok body, state))
    {form : β} (hread : fields body = .sound form) :
    exec (route.serve service request) state =
      (((exec (operation form) state).1.mapError .failed).map present,
        (exec (operation form) state).2) := by
  rw [hroute, exec_bind, hbody, ← exec_answered]
  dsimp only
  rw [hread]
  rfl

/-- What is answered with a value has a form, which is handed on in any state. -/
theorem Route.HandsOn.exists_form
    {state later : State} {response : Response}
    (hserve : exec (route.serve service request) state = (.ok response, later)) :
    ∃ form value, exec (operation form) state = (.ok value, later) ∧
      ∀ other, exec (route.serve service request) other =
        (((exec (operation form) other).1.mapError .failed).map present,
          (exec (operation form) other).2) := by
  obtain ⟨read, hbody⟩ := exec_readBody request
  cases read with
  | error rejection =>
      rw [hroute, exec_bind, hbody] at hserve
      cases hserve
  | ok body =>
      cases hread : fields body with
      | flawed problems =>
          rw [hroute, exec_bind, hbody] at hserve
          dsimp only at hserve
          rw [hread] at hserve
          cases hserve
      | sound form =>
          rw [hroute.exec_serve (hbody state) hread] at hserve
          rcases hexec : exec (operation form) state with ⟨outcome, last⟩
          rw [hexec] at hserve
          cases outcome with
          | error failure => cases hserve
          | ok value =>
              obtain ⟨-, rfl⟩ := Prod.mk.inj hserve
              exact ⟨form, value, hexec, fun other => hroute.exec_serve (hbody other) hread⟩

variable (hsubmits : request.Submits route body)

include hsubmits

theorem Request.Submits.exec_serve
    {form : β} (hread : fields body = .sound form) (state : State) :
    exec (route.serve service request) state =
      (((exec (operation form) state).1.mapError .failed).map present,
        (exec (operation form) state).2) :=
  hroute.exec_serve (hsubmits.exec_readBody state) hread

theorem Request.Submits.reaches
    {form : β} (hread : fields body = .sound form) (state : State) :
    request.Reaches service state (operation form) state present := by
  intro site
  obtain ⟨response, hrun, hsends⟩ := hsubmits.respond_sends service site state
  rw [hsubmits.exec_serve hroute hread] at hrun hsends
  exact ⟨response, hrun, hsends⟩

theorem Request.Submits.isRejected
    {problems : List Problem} (hread : fields body = .flawed problems) (state : State) :
    request.IsRejected service state (.invalid problems) state := by
  intro site
  have hserve : exec (route.serve service request) state = (.error (.invalid problems), state) := by
    rw [hroute, exec_bind, hsubmits.exec_readBody]
    dsimp only
    rw [hread]
    rfl
  obtain ⟨response, hrun, hsends⟩ := hsubmits.respond_sends service site state
  rw [hserve] at hrun hsends
  exact ⟨response, hrun, hsends⟩

/-- A form whose operation succeeds is answered with what it gives. -/
theorem Request.Submits.respond_value
    {form : β} (hread : fields body = .sound form) {state later : State} {value : α}
    (hexec : exec (operation form) state = (.ok value, later)) (site : Site) :
    ∃ response, (respond service site request).run state = (response, later) ∧
      site.Sends request (present value) response := by
  obtain ⟨response, hrun, hsends⟩ := hsubmits.reaches hroute hread state site
  rw [hexec] at hrun hsends
  exact ⟨response, hrun, hsends⟩

/-- An answer that reports no error comes from a sound form and its operation. -/
theorem Request.Submits.exists_value
    {state later : State} {site : Site} {response : Response}
    (hrun : (respond service site request).run state = (response, later))
    (hstatus : response.status < 400) :
    ∃ form value, fields body = .sound form ∧ exec (operation form) state = (.ok value, later) ∧
      response.Tells (present value) := by
  cases hread : fields body with
  | flawed problems =>
      obtain ⟨_, hresponds, hsends⟩ := hsubmits.isRejected hroute hread state site
      obtain ⟨rfl, rfl⟩ := Prod.mk.inj (hrun.symm.trans hresponds)
      have htells := hsends.tells_of_lt hstatus
      have hlow := (Rejection.invalid problems).le_status
      rw [← htells.status] at hlow
      omega
  | sound form =>
      obtain ⟨_, hresponds, hsends⟩ := hsubmits.reaches hroute hread state site
      obtain ⟨rfl, rfl⟩ := Prod.mk.inj (hrun.symm.trans hresponds)
      have htells := hsends.tells_of_lt hstatus
      rcases hexec : exec (operation form) state with ⟨outcome, after⟩
      rw [hexec] at htells
      cases outcome with
      | error failure =>
          have hlow := (Rejection.failed failure).le_status
          have hsame : response.status = (Rejection.failed failure).response.status := htells.status
          omega
      | ok value => exact ⟨form, value, rfl, hexec, htells⟩

end Forms

/-! ## Callers -/

theorem claimsToJson_plain
    {claims : Token.Claims} {email tokenId kind : String} (hemail : claims.email = .plain email)
    (htokenId : claims.tokenId = .plain tokenId) (hkind : claims.tokenType = .text kind) :
    claimsToJson claims = .sound (.record
      [("user_id", .int claims.userId), ("email", .text email), ("token_id", .text tokenId),
        ("token_type", .text kind),
        ("expires_at", .text (MomentText.answered claims.expiresAt))]) := by
  unfold claimsToJson
  rw [hemail, htokenId, hkind]
  rfl

/-- Whoever shows a token that counts as an access token is told the claims in it. -/
theorem respond_identity
    {service : Service} {request : Request} (hasks : request.Asks .identity) {token : String}
    (hheader : request.header? "authorization" = some ("Bearer " ++ token))
    (htrimmed : Text.trimEnds Text.isWordBreak token.toList = token.toList)
    (hnonempty : token.toList ≠ []) {state : State} {claims : Token.Claims}
    (hvalid : service.issuer.validate state.now .access token = .ok claims) {body : Json}
    (hshown : claimsToJson claims = .sound body) (site : Site) :
    ∃ response, (respond service site request).run state = (response, state) ∧
      site.Sends request (.json 200 body) response := by
  have htoken : exec (service.validateToken token) state = (.ok claims, state) := by
    have hexec : exec (service.validate .access token) state = (.ok claims, state) := by
      rw [Service.validate, exec_bind, Operation.exec_now]
      dsimp only
      rw [hvalid]
      rfl
    rw [Service.validateToken, exec_tryCatch, hexec]
  have hidentify : exec (identify service request) state = (.ok claims, state) := by
    unfold identify
    rw [hheader, Option.bind_some, bearerToken?_bearer htrimmed, if_neg hnonempty]
    dsimp only
    rw [exec_tryCatch, ofOperation, exec_adapt, htoken]
    rfl
  have hserve : exec (Route.identity.serve service request) state =
      (.ok (Response.json 200 body), state) := by
    rw [Route.serve, exec_bind, hidentify]
    dsimp only
    rw [hshown]
    rfl
  obtain ⟨response, hrun, hsends⟩ := hasks.respond_sends service site state
  rw [hserve] at hrun hsends
  exact ⟨response, hrun, hsends⟩

end AccountSessions.Http
