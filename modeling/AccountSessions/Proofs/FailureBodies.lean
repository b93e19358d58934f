import AccountSessions.Proofs.Disclosures

/-!
# The bodies of failures

A request that fails is answered with an envelope of a code, a message and a detail.  Four
shortcomings of a request are told in other words: a path or a method that leads nowhere,
a body that no value can be read from, and the lack of a bearer token that counts.  And
nothing is told to a request whose address cannot be read.
-/

namespace AccountSessions.Http

open Handling

/-! ## Rejections with and without an envelope -/

/-- The body is an object with an error alone, which has a code, a message and a detail. -/
def Response.IsEnveloped (response : Response) : Prop :=
  ∃ code message detail, response.body = .json (envelope code message detail)

namespace Rejection

/-- The response has a body of its own instead of an envelope. -/
def IsBare : Rejection → Prop
  | unreadable => True
  | unauthenticated => True
  | unknownPath => True
  | wrongMethod _ => True
  | _ => False

theorem isEnveloped_refusalResponse (refusal : Refusal) :
    (refusalResponse refusal).IsEnveloped := by
  refine ⟨refusal.kind.code, refusal.message, refusal.kind.rule?, ?_⟩
  unfold refusalResponse
  dsimp only
  split
  · rfl
  · rfl

theorem isEnveloped_response (rejection : Rejection) :
    rejection.response.IsEnveloped ↔ ¬ rejection.IsBare := by
  cases rejection with
  | invalid problems => exact ⟨fun _ h => h, fun _ => ⟨_, _, some (places problems), rfl⟩⟩
  | malformed offset =>
      exact ⟨fun _ h => h, fun _ => ⟨_, _, some ("body." ++ toString offset), rfl⟩⟩
  | failed failure =>
      refine ⟨fun _ h => h, fun _ => ?_⟩
      cases failure with
      | refused refusal => exact isEnveloped_refusalResponse refusal
      | broken cause => exact ⟨_, _, none, rfl⟩
  | unreadable | unauthenticated | unknownPath | wrongMethod =>
      refine ⟨?_, fun hwhole => (hwhole trivial).elim⟩
      rintro ⟨code, message, detail, hbody⟩
      have hmembers := Body.json.inj hbody
      simp [envelope, Json.record] at hmembers

end Rejection

theorem Response.not_isEnveloped_bare : ¬ bare.IsEnveloped := by
  rintro ⟨code, message, detail, ⟨⟩⟩

theorem Response.Tells.isEnveloped
    {response other : Response} (htells : response.Tells other) :
    response.IsEnveloped ↔ other.IsEnveloped := by
  rw [IsEnveloped, IsEnveloped, htells.body]

/-! ## Bodies and callers -/

/-- The request declares a value in its body, whose bytes are not even a text. -/
structure Request.IsUnreadable (request : Request) : Prop where
  nonempty : request.body.isEmpty = false
  type : (request.header? "content-type").any isJsonType = true
  content : Json.readBytes request.body = .error .unreadable

variable {state : State} {service : Service} {request : Request}

theorem readBody_of_isUnreadable (hunreadable : request.IsUnreadable) (state : State) :
    exec (readBody request) state = (.error .unreadable, state) := by
  unfold readBody
  rw [hunreadable.nonempty, hunreadable.type, if_neg (by decide), hunreadable.content]
  rfl

/-- A body that cannot be read is unreadable, or it is at fault in a way that is told in
an envelope. -/
theorem readBody_error
    {rejection : Rejection} (hread : (exec (readBody request) state).1 = .error rejection) :
    (rejection = .unreadable ∧ request.IsUnreadable) ∨ ¬ rejection.IsBare := by
  unfold readBody at hread
  by_cases habsent :
      (request.body.isEmpty || !((request.header? "content-type").any isJsonType)) = true
  · rw [if_pos habsent] at hread
    cases hread
  · rw [if_neg habsent] at hread
    have hpresent : request.body.isEmpty = false ∧
        (request.header? "content-type").any isJsonType = true := by
      simpa using habsent
    cases hcontent : Json.readBytes request.body with
    | ok body =>
        rw [hcontent] at hread
        cases hread
    | error fault =>
        rw [hcontent] at hread
        cases fault with
        | unreadable =>
            obtain rfl := Except.error.inj hread
            exact .inl ⟨rfl, hpresent.1, hpresent.2, hcontent⟩
        | malformed offset =>
            obtain rfl := Except.error.inj hread
            exact .inr id

/-- The gate lets nobody pass whom it does not know, and turns nobody else away. -/
theorem identify_eq_unauthenticated (hundisturbed : state.disturbances = []) :
    (exec (identify service request) state).1 = .error .unauthenticated ↔
      request.Anonymous service state := by
  refine ⟨fun hfails => ?_, fails_identify hundisturbed⟩
  unfold identify at hfails
  cases htoken : (request.header? "authorization").bind bearerToken? with
  | none => exact .unmarked htoken
  | some token =>
      rw [htoken] at hfails
      obtain ⟨outcome, _, ⟨later, hexec, -⟩, -, houtcome⟩ :=
        Service.rests_validateToken hundisturbed service token
      dsimp only at hfails
      rw [exec_tryCatch, ofOperation, exec_adapt, hexec] at hfails
      cases houtcome with
      | access hvalid | refresh _ hvalid => cases hfails
      | broken hbroken => cases hfails
      | @rejected fault hother hinvalid =>
          cases fault with
          | broken cause => cases hfails
          | rejected reason => exact .rejected htoken hother ⟨reason, hinvalid⟩
      | dead hother hvalid hdead =>
          refine .unrecorded htoken hvalid fun record hmem hrecord => ?_
          have hunmatched := List.find?_eq_none.mp (Option.isNone_iff_eq_none.mp hdead) record hmem
          simpa [hrecord] using hunmatched

theorem identify_error
    {rejection : Rejection}
    (hfails : (exec (identify service request) state).1 = .error rejection) :
    rejection = .unauthenticated ∨ ¬ rejection.IsBare := by
  unfold identify at hfails
  cases htoken : (request.header? "authorization").bind bearerToken? with
  | none =>
      rw [htoken] at hfails
      exact .inl (Except.error.inj hfails).symm
  | some token =>
      rw [htoken] at hfails
      dsimp only at hfails
      rw [exec_tryCatch, ofOperation, exec_adapt] at hfails
      rcases hexec : exec (service.validateToken token) state with ⟨outcome, later⟩
      rw [hexec] at hfails
      cases outcome with
      | ok claims => cases hfails
      | error failure =>
          cases failure with
          | broken cause =>
              obtain rfl := Except.error.inj hfails
              exact .inr id
          | refused refusal =>
              by_cases hinvalid : refusal.kind = .invalidToken
              · simp only [Except.mapError, hinvalid, if_true, exec_throw] at hfails
                exact .inl (Except.error.inj hfails).symm
              · simp only [Except.mapError, hinvalid, if_false, exec_throw] at hfails
                obtain rfl := Except.error.inj hfails
                exact .inr id

/-! ## Requests that fall short -/

namespace Route

def ReadsBody : Route → Prop
  | register => True
  | login => True
  | refresh => True
  | logout => True
  | _ => False

end Route

/-- What a request lacks that is rejected without an envelope.  The caller of a logout is
only looked at when its body can be read. -/
inductive Request.FallsShort (service : Service) (state : State) (request : Request) :
    Rejection → Prop where
  | unknownPath (hpath : Route.ofPath? (Target.ofText request.target).path = none)
      (hpage : Page.ofPath? (Target.ofText request.target).path = none)
      (hbeside : besidePath? (Target.ofText request.target).path = none) :
      FallsShort service state request .unknownPath
  | wrongPageMethod {page : Page}
      (hpath : Route.ofPath? (Target.ofText request.target).path = none)
      (hpage : Page.ofPath? (Target.ofText request.target).path = some page)
      (hmethod : request.method ∉ Page.methods) :
      FallsShort service state request (.wrongMethod (", ".intercalate Page.methods))
  | wrongMethod {route : Route}
      (hpath : Route.ofPath? (Target.ofText request.target).path = some route)
      (hmethod : request.method ≠ route.method) :
      FallsShort service state request (.wrongMethod route.method)
  | unreadable {route : Route} (hasks : request.Asks route) (hreads : route.ReadsBody)
      (hunreadable : request.IsUnreadable) :
      FallsShort service state request .unreadable
  | unauthenticated {route : Route} (hasks : request.Asks route) (hprotected : route.IsProtected)
      (hbody : route = .logout → ∃ body, (exec (readBody request) state).1 = .ok body)
      (hgate : (exec (identify service request) state).1 = .error .unauthenticated) :
      FallsShort service state request .unauthenticated

/-- The handling ends with an answer that reports no error, with a rejection that has an
envelope, or with one of the given others. -/
inductive Settles (others : Rejection → Prop) : Except Rejection Response → Prop where
  | answered {response : Response} (hstatus : response.status < 400) :
      Settles others (.ok response)
  | enveloped {rejection : Rejection} (hwhole : ¬ rejection.IsBare) :
      Settles others (.error rejection)
  | other {rejection : Rejection} (hother : others rejection) :
      Settles others (.error rejection)

section Settling

variable {others : Rejection → Prop}

theorem settles_readBody_bind
    {next : Json → Handling Response} (hunreadable : request.IsUnreadable → others .unreadable)
    (hnext : ∀ body, (exec (readBody request) state).1 = .ok body →
      Settles others (exec (next body) state).1) :
    Settles others (exec (readBody request >>= next) state).1 := by
  obtain ⟨outcome, hexec⟩ := exec_readBody request
  rw [exec_bind, hexec]
  cases outcome with
  | ok body => exact hnext body (by rw [hexec])
  | error rejection =>
      rcases readBody_error (show (exec (readBody request) state).1 = .error rejection by
        rw [hexec]) with ⟨rfl, hlacks⟩ | hwhole
      · exact .other (hunreadable hlacks)
      · exact .enveloped hwhole

theorem settles_require_bind
    {α : Type} (fields : Checked α) {next : α → Handling Response}
    (hnext : ∀ form, Settles others (exec (next form) state).1) :
    Settles others (exec (require fields >>= next) state).1 := by
  cases fields with
  | sound form => exact hnext form
  | flawed problems => exact .enveloped id

theorem settles_identify_bind
    {next : Token.Claims → Handling Response}
    (hgate : (exec (identify service request) state).1 = .error .unauthenticated →
      others .unauthenticated)
    (hnext : ∀ claims later, Settles others (exec (next claims) later).1) :
    Settles others (exec (identify service request >>= next) state).1 := by
  rcases hexec : exec (identify service request) state with ⟨outcome, later⟩
  rw [exec_bind, hexec]
  rw [hexec] at hgate
  cases outcome with
  | ok claims => exact hnext claims later
  | error rejection =>
      rcases identify_error (show (exec (identify service request) state).1 = .error rejection by
        rw [hexec]) with rfl | hwhole
      · exact .other (hgate rfl)
      · exact .enveloped hwhole

theorem settles_answer
    {α : Type} (operation : Operation α) {present : α → Response}
    (hstatus : ∀ value, (present value).status < 400) :
    Settles others (exec (do return present (← ofOperation operation)) state).1 := by
  rw [exec_answered]
  cases (exec operation state).1 with
  | ok value => exact .answered (hstatus value)
  | error failure => exact .enveloped id

end Settling

theorem settles_serve {route : Route} (hasks : request.Asks route) :
    Settles (request.FallsShort service state) (exec (route.serve service request) state).1 := by
  have hunreadable (hreads : route.ReadsBody) (hlacks : request.IsUnreadable) :
      request.FallsShort service state .unreadable :=
    .unreadable hasks hreads hlacks
  unfold Route.serve
  cases route with
  | health => exact settles_answer _ fun _ => (by decide : 200 < 400)
  | register =>
      refine settles_readBody_bind (hunreadable trivial) fun body _ => ?_
      refine settles_require_bind _ fun form => ?_
      exact settles_answer _ fun _ => (by decide : 201 < 400)
  | login | refresh =>
      refine settles_readBody_bind (hunreadable trivial) fun body _ => ?_
      refine settles_require_bind _ fun form => ?_
      exact settles_answer _ fun _ => (by decide : 200 < 400)
  | logout =>
      refine settles_readBody_bind (hunreadable trivial) fun body hbody => ?_
      refine settles_identify_bind
        (.unauthenticated hasks trivial fun _ => ⟨body, hbody⟩) fun claims later => ?_
      refine settles_require_bind _ fun form => ?_
      exact settles_answer _ fun _ => (by decide : 200 < 400)
  | logoutAll =>
      refine settles_identify_bind (.unauthenticated hasks trivial (by rintro ⟨⟩))
        fun claims later => ?_
      exact settles_answer _ fun _ => (by decide : 200 < 400)
  | identity =>
      refine settles_identify_bind (.unauthenticated hasks trivial (by rintro ⟨⟩))
        fun claims later => ?_
      cases claimsToJson claims with
      | sound body => exact .answered (by decide : 200 < 400)
      | flawed problems => exact .enveloped id

theorem dispatch_of_wrongMethod
    {route : Route} (hpath : Route.ofPath? (Target.ofText request.target).path = some route)
    (hmethod : request.method ≠ route.method) (site : Site) :
    dispatch service site request = throw (.wrongMethod route.method) := by
  unfold dispatch
  rw [hpath]
  dsimp only
  rw [if_neg hmethod]

theorem elsewhere_of_wrongPageMethod
    {page : Page} (hpage : Page.ofPath? (Target.ofText request.target).path = some page)
    (hmethod : request.method ∉ Page.methods) (site : Site) :
    elsewhere site request = .error (.wrongMethod (", ".intercalate Page.methods)) := by
  unfold elsewhere
  dsimp only
  rw [hpage]
  dsimp only
  rw [if_neg hmethod]

theorem elsewhere_of_unknownPath
    (hpage : Page.ofPath? (Target.ofText request.target).path = none)
    (hbeside : besidePath? (Target.ofText request.target).path = none) (site : Site) :
    elsewhere site request = .error .unknownPath := by
  unfold elsewhere
  dsimp only
  rw [hpage]
  dsimp only
  rw [hbeside]

theorem settles_elsewhere
    (hpath : Route.ofPath? (Target.ofText request.target).path = none) (site : Site) :
    Settles (request.FallsShort service state) (elsewhere site request) := by
  cases hpage : Page.ofPath? (Target.ofText request.target).path with
  | some page =>
      by_cases hmethod : request.method ∈ Page.methods
      · unfold elsewhere
        dsimp only
        rw [hpage]
        dsimp only
        rw [if_pos hmethod]
        exact .answered (by decide : 200 < 400)
      · rw [elsewhere_of_wrongPageMethod hpage hmethod]
        exact .other (.wrongPageMethod hpath hpage hmethod)
  | none =>
      cases hbeside : besidePath? (Target.ofText request.target).path with
      | some path =>
          unfold elsewhere
          dsimp only
          rw [hpage]
          dsimp only
          rw [hbeside]
          exact .answered (by decide : 307 < 400)
      | none =>
          rw [elsewhere_of_unknownPath hpage hbeside]
          exact .other (.unknownPath hpath hpage hbeside)

theorem settles_dispatch (service : Service) (site : Site) (request : Request) (state : State) :
    Settles (request.FallsShort service state) (exec (dispatch service site request) state).1 := by
  cases hpath : Route.ofPath? (Target.ofText request.target).path with
  | some route =>
      by_cases hmethod : request.method = route.method
      · have hasks : request.Asks route := ⟨hpath, hmethod⟩
        rw [hasks.dispatch_eq]
        exact settles_serve hasks
      · rw [dispatch_of_wrongMethod hpath hmethod]
        exact .other (.wrongMethod hpath hmethod)
  | none =>
      rw [exec_dispatch_elsewhere hpath]
      dsimp only
      exact settles_elsewhere hpath site

namespace Request.FallsShort

variable {rejection : Rejection}

theorem isBare (hshort : request.FallsShort service state rejection) : rejection.IsBare := by
  cases hshort with
  | unknownPath | wrongPageMethod | wrongMethod | unreadable | unauthenticated => exact trivial

theorem dispatch_eq (hshort : request.FallsShort service state rejection) (site : Site) :
    (exec (dispatch service site request) state).1 = .error rejection := by
  cases hshort with
  | unknownPath hpath hpage hbeside =>
      rw [exec_dispatch_elsewhere hpath, elsewhere_of_unknownPath hpage hbeside]
  | wrongPageMethod hpath hpage hmethod =>
      rw [exec_dispatch_elsewhere hpath, elsewhere_of_wrongPageMethod hpage hmethod]
  | wrongMethod hpath hmethod => rw [dispatch_of_wrongMethod hpath hmethod, exec_throw]
  | @unreadable route hasks hreads hunreadable =>
      rw [hasks.dispatch_eq]
      have hread : (exec (readBody request) state).1 = .error .unreadable := by
        rw [readBody_of_isUnreadable hunreadable]
      cases route with
      | register | login | refresh | logout => exact fst_exec_bind_error hread _
      | health | logoutAll | identity => exact hreads.elim
  | unauthenticated hasks hprotected hbody hgate =>
      rw [hasks.dispatch_eq]
      exact fails_serve_protected hprotected hbody hgate

end Request.FallsShort

/-! ## The whole -/

/-- A failure has an envelope exactly when the address of the request can be read and the
request does not fall short.  One that does is answered in the words of its rejection,
which are no envelope; and who is turned away at the gate has no bearer token that counts. -/
theorem failure_enveloped_iff
    (service : Service) (site : Site) {request : Request}
    (hpreflight : ¬ CrossOrigin.isPreflight request = true) (state : State) :
    let response := ((respond service site request).run state).1
    (400 ≤ response.status →
      (response.IsEnveloped ↔
        site.reads request = true ∧ ∀ rejection, ¬ request.FallsShort service state rejection)) ∧
    (site.reads request = true → ∀ rejection, request.FallsShort service state rejection →
      response.Tells rejection.response ∧ 400 ≤ response.status) ∧
    (site.reads request = false → response = .bare) ∧
    (state.disturbances = [] →
      ((exec (identify service request) state).1 = .error .unauthenticated ↔
        request.Anonymous service state)) := by
  obtain ⟨response, hrun, hsends⟩ := run_respond service site hpreflight state
  rw [hrun]
  dsimp only
  have hshort (hreads : site.reads request = true) (rejection : Rejection)
      (hshort : request.FallsShort service state rejection) :
      response.Tells rejection.response := by
    have htells := hsends.tells hreads
    rwa [hshort.dispatch_eq] at htells
  refine ⟨fun hstatus => ?_, fun hreads rejection hlacks => ?_, hsends.bare,
    identify_eq_unauthenticated⟩
  · constructor
    · intro henveloped
      have hreads : site.reads request = true := by
        by_contra hunread
        rw [hsends.bare (Bool.eq_false_iff.mpr hunread)] at henveloped
        exact Response.not_isEnveloped_bare henveloped
      refine ⟨hreads, fun rejection hlacks => ?_⟩
      rw [(hshort hreads rejection hlacks).isEnveloped, Rejection.isEnveloped_response]
        at henveloped
      exact henveloped hlacks.isBare
    · rintro ⟨hreads, hfree⟩
      have htells := hsends.tells hreads
      rcases hexec : exec (dispatch service site request) state with ⟨outcome, later⟩
      have hsettles := settles_dispatch service site request state
      rw [hexec] at htells hsettles
      cases hsettles with
      | answered hbelow =>
          have hsame := htells.status
          dsimp only [answer] at hsame
          omega
      | enveloped hwhole =>
          rw [htells.isEnveloped]
          exact (Rejection.isEnveloped_response _).mpr hwhole
      | other hlacks => exact absurd hlacks (hfree _)
  · refine ⟨hshort hreads rejection hlacks, ?_⟩
    rw [(hshort hreads rejection hlacks).status]
    exact rejection.le_status

/-- A path that leads nowhere is told so without an envelope. -/
theorem failure_bare_at_unknown_path :
    let request : Request := ⟨"GET", "/nope", [], []⟩
    let site : Site := .ofOrigins []
    let response := ((respond .lenient site request).run (.start .epoch)).1
    ¬ CrossOrigin.isPreflight request = true ∧ site.reads request = true ∧
      request.FallsShort .lenient (.start .epoch) .unknownPath ∧ response.status = 404 ∧
      response.body = .json (.record [("detail", .text "Not Found")]) ∧
      ¬ response.IsEnveloped := by
  intro request site response
  have hpreflight : ¬ CrossOrigin.isPreflight request = true := by decide +kernel
  have hlacks : request.FallsShort .lenient (.start .epoch) .unknownPath :=
    .unknownPath (by decide +kernel) (by decide +kernel) (by decide +kernel)
  obtain ⟨henveloped, hshort, -⟩ := failure_enveloped_iff .lenient site hpreflight (.start .epoch)
  obtain ⟨htells, hstatus⟩ := hshort rfl _ hlacks
  exact ⟨hpreflight, rfl, hlacks, htells.status, htells.body,
    fun h => ((henveloped hstatus).mp h).2 _ hlacks⟩

end AccountSessions.Http
