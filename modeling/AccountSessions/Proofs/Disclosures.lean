import AccountSessions.Proofs.Exchanges
import AccountSessions.Settings.Basic

/-!
# What failures disclose

A caller who fails learns which of a few things went wrong and no more: the credentials,
the token, its session, or the lack of a bearer token that counts.  Which check it was
stays with the service, and so does everything about the state.  The response only tells
its own origin that it may read it.
-/

namespace AccountSessions

open Operation

/-! ## Failing operations -/

namespace Service

variable {state : State} (hundisturbed : state.disturbances = []) {service : Service}

include hundisturbed

theorem fails_login
    {identifier password : String} (hdenied : Denied state.database identifier password) :
    (exec (service.login identifier password) state).1 = .error (.usual .invalidCredentials) := by
  obtain ⟨outcome, database, ⟨later, hexec, -⟩, houtcome⟩ :=
    ends_login_outcome hundisturbed service identifier password
  rw [hexec]
  cases houtcome with
  | denied => rfl
  | unverified hfound hunverified =>
      rw [(hdenied.of_found hfound).1] at hunverified
      cases hunverified
  | admitted hfound _ hright hactive =>
      rw [(hdenied.of_found hfound).2 hright] at hactive
      cases hactive

omit hundisturbed in
theorem exists_reason_of_toFailure
    {fault : Token.Fault} {refusal : Refusal} (hrefused : fault.toFailure = .refused refusal) :
    ∃ reason : Token.Rejection, refusal = .ofToken reason.text := by
  cases fault with
  | rejected reason => exact ⟨reason, (Failure.refused.inj hrefused).symm⟩
  | broken cause => cases hrefused

/-- A refresh reports an invalid token for what its check has found, and in the usual
words. -/
theorem refusal_of_refresh
    {token : String} {refusal : Refusal}
    (hrefused : (exec (service.refresh token) state).1 = .error (.refused refusal))
    (hkind : refusal.kind = .invalidToken) :
    ∃ reason : Token.Rejection, refusal = .ofToken reason.text := by
  obtain ⟨outcome, _, ⟨later, hexec, -⟩, -, houtcome⟩ := rests_refresh hundisturbed service token
  rw [hexec] at hrefused
  cases houtcome with
  | rejected => exact exists_reason_of_toFailure (Except.error.inj hrefused)
  | overflow => cases hrefused
  | unknown | dead =>
      rw [← Failure.refused.inj (Except.error.inj hrefused)] at hkind
      cases hkind
  | @renewed claims account tokenId _ _ _ =>
      cases hissue : service.issuer.issue .access state.now tokenId account.id
          (some account.email) with
      | error cause =>
          rw [hissue] at hrefused
          cases hrefused
      | ok accessToken =>
          rw [hissue] at hrefused
          cases hrefused

theorem refusal_of_logout
    {userId : Int} {token : String} {refusal : Refusal}
    (hrefused : (exec (service.logout userId token) state).1 = .error (.refused refusal))
    (hkind : refusal.kind = .invalidToken) :
    ∃ reason : Token.Rejection, refusal = .ofToken reason.text := by
  obtain ⟨outcome, _, ⟨later, hexec, -⟩, houtcome⟩ :=
    ends_logout_outcome hundisturbed service userId token
  rw [hexec] at hrefused
  cases houtcome with
  | rejected => exact exists_reason_of_toFailure (Except.error.inj hrefused)
  | foreign | closed =>
      rw [← Failure.refused.inj (Except.error.inj hrefused)] at hkind
      cases hkind
  | revoked => cases hrefused

omit hundisturbed in
theorem liveRecord?_isSome_eq_false
    {token : String}
    (hdead : ∀ record ∈ state.database.records, record.token = token →
      record.isLive state.now = false) :
    (state.database.liveRecord? token state.now).isSome = false := by
  rw [← Bool.not_eq_true]
  intro hlive
  obtain ⟨record, hmem, htoken, hopen, hunexpired⟩ := Database.liveRecord?_isSome.mp hlive
  have hrecord := hdead record hmem htoken
  simp [SessionRecord.isLive, hopen, Moment.before, hunexpired] at hrecord

/-- A refresh with a token that is in order but has no live record. -/
theorem fails_refresh_dead
    {token : String} {claims : Token.Claims} {account : Account}
    (hvalid : service.issuer.validate state.now .refresh token = .ok claims)
    (hsubject : (exec (Store.accountById claims.userId) state).1 = .ok (some account))
    (hdead : ∀ record ∈ state.database.records, record.token = token →
      record.isLive state.now = false) :
    (exec (service.refresh token) state).1 = .error (.usual .sessionNotLive) := by
  obtain ⟨hfits, haccount⟩ := Store.account?_of_accountById hundisturbed hsubject
  obtain ⟨outcome, _, ⟨later, hexec, -⟩, -, houtcome⟩ := rests_refresh hundisturbed service token
  rw [hexec]
  rcases houtcome.of_found hvalid hfits haccount with ⟨-, rfl⟩ | ⟨hlive, -⟩
  · rfl
  · rw [liveRecord?_isSome_eq_false hdead] at hlive
    cases hlive

/-- A logout with the caller's own token, whose record is gone or revoked. -/
theorem fails_logout_closed
    {token : String} {claims : Token.Claims}
    (hvalid : service.issuer.validate state.now .refresh token = .ok claims)
    (hclosed : ∀ record ∈ state.database.records, record.token = token → record.isOpen = false) :
    (exec (service.logout claims.userId token) state).1 = .error (.usual .sessionNotLive) := by
  obtain ⟨outcome, _, ⟨later, hexec, -⟩, houtcome⟩ :=
    ends_logout_outcome hundisturbed service claims.userId token
  rw [hexec]
  cases houtcome with
  | rejected hinvalid =>
      rw [hvalid] at hinvalid
      cases hinvalid
  | foreign hother hforeign =>
      obtain rfl := Except.ok.inj (hvalid.symm.trans hother)
      exact absurd rfl hforeign
  | closed => rfl
  | revoked _ _ hopen =>
      obtain ⟨record, hmem, hrecord⟩ := List.countP_pos_iff.mp (Nat.pos_of_ne_zero hopen)
      rw [Bool.and_eq_true, beq_iff_eq] at hrecord
      rw [hclosed record hmem hrecord.2] at hrecord
      cases hrecord.1

/-- A bearer token that is accepted as neither kind. -/
theorem fails_validateToken_rejected
    {token : String} (haccess : service.issuer.Rejects state.now .access token)
    (hrefresh : service.issuer.Rejects state.now .refresh token) :
    ∃ detail, (exec (service.validateToken token) state).1 =
      .error (.refused (.ofToken detail)) := by
  obtain ⟨first, hfirst⟩ := haccess
  obtain ⟨second, hsecond⟩ := hrefresh
  obtain ⟨outcome, _, ⟨later, hexec, -⟩, -, houtcome⟩ :=
    rests_validateToken hundisturbed service token
  rw [hexec]
  cases houtcome with
  | access hvalid =>
      rw [hfirst] at hvalid
      cases hvalid
  | broken hbroken =>
      rw [hfirst] at hbroken
      cases hbroken
  | rejected _ hinvalid =>
      obtain rfl := Except.error.inj (hsecond.symm.trans hinvalid)
      exact ⟨second.text, rfl⟩
  | dead _ hvalid | refresh _ hvalid =>
      rw [hsecond] at hvalid
      cases hvalid

/-- A refresh token without a live record does not authenticate its bearer. -/
theorem fails_validateToken_dead
    {token : String} {claims : Token.Claims}
    (hvalid : service.issuer.validate state.now .refresh token = .ok claims)
    (hdead : ∀ record ∈ state.database.records, record.token = token →
      record.isLive state.now = false) :
    ∃ detail, (exec (service.validateToken token) state).1 =
      .error (.refused (.ofToken detail)) := by
  have hother : service.issuer.Rejects state.now .access token :=
    Token.Issuer.rejects_of_validate (by decide) hvalid
  obtain ⟨outcome, _, ⟨later, hexec, -⟩, -, houtcome⟩ :=
    rests_validateToken hundisturbed service token
  rw [hexec]
  rcases houtcome.of_refresh hother hvalid with ⟨-, rfl⟩ | ⟨hlive, -⟩
  · exact ⟨_, rfl⟩
  · rw [liveRecord?_isSome_eq_false hdead] at hlive
    cases hlive

end Service

/-! ## Failing requests -/

namespace Http

open Handling

section Serving

variable {state : State} {service : Service} {request : Request}

/-- The request has no bearer token that counts: it has none at all, or one that is
accepted as neither kind, or a refresh token without a live record. -/
inductive Request.Anonymous (service : Service) (state : State) (request : Request) : Prop where
  | unmarked (hnone : (request.header? "authorization").bind bearerToken? = none)
  | rejected {token : String}
      (htoken : (request.header? "authorization").bind bearerToken? = some token)
      (haccess : service.issuer.Rejects state.now .access token)
      (hrefresh : service.issuer.Rejects state.now .refresh token)
  | unrecorded {token : String} {claims : Token.Claims}
      (htoken : (request.header? "authorization").bind bearerToken? = some token)
      (hvalid : service.issuer.validate state.now .refresh token = .ok claims)
      (hdead : ∀ record ∈ state.database.records, record.token = token →
        record.isLive state.now = false)

theorem fails_identify_of_validateToken
    {token detail : String}
    (htoken : (request.header? "authorization").bind bearerToken? = some token)
    (hfails : (exec (service.validateToken token) state).1 = .error (.refused (.ofToken detail))) :
    (exec (identify service request) state).1 = .error .unauthenticated := by
  unfold identify
  rw [htoken]
  dsimp only
  rcases hexec : exec (service.validateToken token) state with ⟨outcome, later⟩
  rw [hexec] at hfails
  dsimp only at hfails
  rw [exec_tryCatch, ofOperation, exec_adapt, hexec, hfails]
  rfl

theorem fails_identify
    (hundisturbed : state.disturbances = []) (hanonymous : request.Anonymous service state) :
    (exec (identify service request) state).1 = .error .unauthenticated := by
  cases hanonymous with
  | unmarked hnone =>
      unfold identify
      rw [hnone]
      rfl
  | rejected htoken haccess hrefresh =>
      obtain ⟨detail, hfails⟩ :=
        Service.fails_validateToken_rejected hundisturbed haccess hrefresh
      exact fails_identify_of_validateToken htoken hfails
  | unrecorded htoken hvalid hdead =>
      obtain ⟨detail, hfails⟩ := Service.fails_validateToken_dead hundisturbed hvalid hdead
      exact fails_identify_of_validateToken htoken hfails

/-- The route is for callers with a bearer token only. -/
def Route.IsProtected : Route → Prop
  | logout => True
  | logoutAll => True
  | identity => True
  | _ => False

/-- The body of a logout is read before the caller is identified. -/
theorem fails_serve_protected
    {route : Route} (hprotected : route.IsProtected)
    (hbody : route = .logout → ∃ body, (exec (readBody request) state).1 = .ok body)
    (hidentify : (exec (identify service request) state).1 = .error .unauthenticated) :
    (exec (route.serve service request) state).1 = .error .unauthenticated := by
  cases route with
  | logout =>
      obtain ⟨body, hread⟩ := hbody rfl
      obtain ⟨outcome, hexec⟩ := exec_readBody request
      rw [hexec] at hread
      dsimp only at hread
      rw [Route.serve, exec_bind, hexec, hread]
      exact fst_exec_bind_error hidentify _
  | logoutAll => exact fst_exec_bind_error hidentify _
  | identity => exact fst_exec_bind_error hidentify _
  | health | register | login | refresh => exact hprotected.elim

theorem fails_serve_logout
    {body : Json} (hsubmits : request.Submits .logout body) {caller : Token.Claims}
    {identified : State}
    (hcaller : exec (identify service request) state = (.ok caller, identified))
    {form : SessionTicket} (hread : SessionTicket.read body = .sound form) {failure : Failure}
    (hfails : (exec (service.logout caller.userId form.refreshToken) identified).1 =
      .error failure) :
    (exec (Route.logout.serve service request) state).1 = .error (.failed failure) := by
  rw [Route.serve, exec_bind, hsubmits.exec_readBody]
  dsimp only
  rw [exec_bind, hcaller]
  dsimp only
  rw [hread]
  exact fst_exec_bind_error (fst_exec_ofOperation_error hfails) _

/-- Nothing but the log has changed when the caller is identified. -/
theorem leads_of_identify
    (hundisturbed : state.disturbances = []) {outcome : Except Rejection Token.Claims}
    {identified : State} (hexec : exec (identify service request) state = (outcome, identified)) :
    Leads state state.database identified := by
  obtain ⟨later, hlater, hleads⟩ := yields_identify hundisturbed service request
  rw [hexec] at hlater
  obtain ⟨-, rfl⟩ := Prod.mk.inj hlater
  exact hleads

end Serving

/-! ## Verdicts -/

/-- What a caller can learn from a failure. -/
inductive Verdict where
  | badCredentials
  | badToken
  | deadSession
  | unknownCaller

def Verdict.response : Verdict → Response
  | badCredentials => Rejection.refusalResponse (.usual .invalidCredentials)
  | badToken => Rejection.refusalResponse (.usual .invalidToken)
  | deadSession => Rejection.refusalResponse (.usual .sessionNotLive)
  | unknownCaller => Rejection.unauthenticatedResponse

/-- The ways in which a request comes to a verdict. -/
inductive Request.Fails (service : Service) (state : State) (request : Request) :
    Verdict → Prop where
  | login {body : Json} {form : Credentials} (hsubmits : request.Submits .login body)
      (hread : Credentials.read body = .sound form)
      (hdenied : Service.Denied state.database form.identifier form.password) :
      Fails service state request .badCredentials
  | refreshRejected {body : Json} {form : SessionTicket} {refusal : Refusal}
      (hsubmits : request.Submits .refresh body) (hread : SessionTicket.read body = .sound form)
      (hrefused : (exec (service.refresh form.refreshToken) state).1 = .error (.refused refusal))
      (hkind : refusal.kind = .invalidToken) :
      Fails service state request .badToken
  | logoutRejected {body : Json} {form : SessionTicket} {caller : Token.Claims}
      {identified : State} {refusal : Refusal} (hsubmits : request.Submits .logout body)
      (hcaller : exec (identify service request) state = (.ok caller, identified))
      (hread : SessionTicket.read body = .sound form)
      (hrefused : (exec (service.logout caller.userId form.refreshToken) identified).1 =
        .error (.refused refusal))
      (hkind : refusal.kind = .invalidToken) :
      Fails service state request .badToken
  | refreshDead {body : Json} {form : SessionTicket} {claims : Token.Claims} {account : Account}
      (hsubmits : request.Submits .refresh body) (hread : SessionTicket.read body = .sound form)
      (hvalid : service.issuer.validate state.now .refresh form.refreshToken = .ok claims)
      (hsubject : (exec (Store.accountById claims.userId) state).1 = .ok (some account))
      (hdead : ∀ record ∈ state.database.records, record.token = form.refreshToken →
        record.isLive state.now = false) :
      Fails service state request .deadSession
  | logoutClosed {body : Json} {form : SessionTicket} {caller claims : Token.Claims}
      {identified : State} (hsubmits : request.Submits .logout body)
      (hcaller : exec (identify service request) state = (.ok caller, identified))
      (hread : SessionTicket.read body = .sound form)
      (hvalid : service.issuer.validate state.now .refresh form.refreshToken = .ok claims)
      (howner : claims.userId = caller.userId)
      (hclosed : ∀ record ∈ state.database.records, record.token = form.refreshToken →
        record.isOpen = false) :
      Fails service state request .deadSession
  | anonymous {route : Route} (hasks : request.Asks route) (hprotected : route.IsProtected)
      (hbody : route = .logout → ∃ body, (exec (readBody request) state).1 = .ok body)
      (hanonymous : request.Anonymous service state) :
      Fails service state request .unknownCaller

/-- The response is the one to the verdict, shared with the origin of the request. -/
theorem Request.Fails.respond_eq
    {service : Service} {state : State} {request : Request} {verdict : Verdict}
    (hfails : request.Fails service state verdict) (hundisturbed : state.disturbances = [])
    {site : Site} (hreads : site.reads request = true) :
    ((respond service site request).run state).1 =
      CrossOrigin.share site.origins request (CrossOrigin.varying verdict.response) := by
  cases hfails with
  | login hsubmits hread hdenied =>
      refine hsubmits.respond_refused ?_ hreads
      rw [hsubmits.exec_serve (Route.handsOn_login service) hread,
        Service.fails_login hundisturbed hdenied]
      rfl
  | refreshRejected hsubmits hread hrefused hkind =>
      obtain ⟨reason, rfl⟩ := Service.refusal_of_refresh hundisturbed hrefused hkind
      have hserve : (exec (Route.refresh.serve service request) state).1 =
          .error (.failed (.refused (.ofToken reason.text))) := by
        rw [hsubmits.exec_serve (Route.handsOn_refresh service) hread, hrefused]
        rfl
      exact hsubmits.respond_refused hserve hreads
  | logoutRejected hsubmits hcaller hread hrefused hkind =>
      have hleads := leads_of_identify hundisturbed hcaller
      obtain ⟨reason, rfl⟩ := Service.refusal_of_logout
        (hleads.disturbances.trans hundisturbed) hrefused hkind
      exact hsubmits.respond_refused (fails_serve_logout hsubmits hcaller hread hrefused) hreads
  | refreshDead hsubmits hread hvalid hsubject hdead =>
      refine hsubmits.respond_refused ?_ hreads
      rw [hsubmits.exec_serve (Route.handsOn_refresh service) hread,
        Service.fails_refresh_dead hundisturbed hvalid hsubject hdead]
      rfl
  | @logoutClosed body form caller claims identified hsubmits hcaller hread hvalid howner hclosed =>
      have hleads := leads_of_identify hundisturbed hcaller
      have hfails : (exec (service.logout caller.userId form.refreshToken) identified).1 =
          .error (.usual .sessionNotLive) := by
        rw [← hleads.now] at hvalid
        rw [← hleads.database] at hclosed
        rw [← howner]
        exact Service.fails_logout_closed (hleads.disturbances.trans hundisturbed) hvalid hclosed
      exact hsubmits.respond_refused (fails_serve_logout hsubmits hcaller hread hfails) hreads
  | anonymous hasks hprotected hbody hanonymous =>
      have hserve := fails_serve_protected hprotected hbody
        (fails_identify hundisturbed hanonymous)
      exact hasks.respond_rejected hserve (by rintro _ ⟨⟩) hreads

/-! ## The origin of a request -/

def allowOrigin : String := "access-control-allow-origin"

theorem headers_share (origins : List String) (request : Request) (response : Response) :
    (CrossOrigin.share origins request response).headers.filter (·.1 != allowOrigin) =
      response.headers.filter (·.1 != allowOrigin) := by
  unfold CrossOrigin.share
  cases request.header? "origin" with
  | none => rfl
  | some origin =>
      dsimp only
      split
      · rw [Response.withHeader, List.filter_append]
        simp [allowOrigin]
      · rfl

theorem share_congr
    (origins : List String) {request other : Request}
    (horigin : request.header? "origin" = other.header? "origin") (response : Response) :
    CrossOrigin.share origins request response = CrossOrigin.share origins other response := by
  rw [CrossOrigin.share, CrossOrigin.share, horigin]

/-- Two requests that can be read and that fail with the same verdict are answered alike,
whatever the causes and the states are.  Only the header that lets an origin read the
response differs, and not if both requests come from one origin. -/
theorem failures_answered_alike
    {service other : Service} {state another : State} (hstate : state.disturbances = [])
    (hanother : another.disturbances = []) {request second : Request} {verdict : Verdict}
    (hfails : request.Fails service state verdict) (hsecond : second.Fails other another verdict)
    {site : Site} (hreads : site.reads request = true) (halsoReads : site.reads second = true) :
    let answer := ((respond service site request).run state).1
    let reply := ((respond other site second).run another).1
    answer.status = reply.status ∧ answer.body = reply.body ∧
      answer.headers.filter (·.1 != allowOrigin) = reply.headers.filter (·.1 != allowOrigin) ∧
      (request.header? "origin" = second.header? "origin" → answer = reply) ∧
      (verdict = .unknownCaller → answer.status = 401) := by
  intro answer reply
  let kept := CrossOrigin.varying verdict.response
  have hanswer : answer = CrossOrigin.share site.origins request kept :=
    hfails.respond_eq hstate hreads
  have hreply : reply = CrossOrigin.share site.origins second kept :=
    hsecond.respond_eq hanother halsoReads
  have htells := Response.Tells.share site.origins request kept
  have halso := Response.Tells.share site.origins second kept
  rw [hanswer, hreply]
  refine ⟨htells.status.trans halso.status.symm, htells.body.trans halso.body.symm, ?_, ?_, ?_⟩
  · rw [headers_share, headers_share]
  · exact fun horigin => share_congr site.origins horigin _
  · rintro rfl
    exact htells.status

/-- Someone whom nobody knows, and Ann with a password that is not hers. -/
theorem failures_answered_alike_at_login :
    let ann : Account :=
      ⟨1, "ann", "a@b.org", "", "Ann", true, true, none, .epoch, .epoch⟩
    let state := State.start .epoch
    let another : State := { state with database := ⟨[ann], []⟩ }
    let site : Site := .ofOrigins []
    let request := Request.posting "/api/v1/auth/login" [("identifier", "bob"), ("password", "p")]
    let second := Request.posting "/api/v1/auth/login" [("identifier", "ann"), ("password", "p")]
    request.Fails .lenient state .badCredentials ∧ second.Fails .lenient another .badCredentials ∧
      ((respond .lenient site request).run state).1 =
        ((respond .lenient site second).run another).1 := by
  intro ann state another site request second
  have hpassword : TextRule.password.check "p" = .ok "p" :=
    TextRule.check_eq_ok.mpr (by decide +kernel)
  have hrequest : request.Submits .login _ :=
    Request.submits_posting rfl rfl (List.cons_ne_nil _ _) (by decide)
  have hsecond : second.Submits .login _ :=
    Request.submits_posting rfl rfl (List.cons_ne_nil _ _) (by decide)
  have hunknown : request.Fails .lenient state .badCredentials :=
    .login hrequest
      (Credentials.read_texts (TextRule.check_eq_ok.mpr (by decide +kernel)) hpassword)
      (.unknown rfl)
  have hfound : another.database.accountOf? "ann" = some ann := rfl
  have hwrong : second.Fails .lenient another .badCredentials :=
    .login hsecond
      (Credentials.read_texts (TextRule.check_eq_ok.mpr (by decide +kernel)) hpassword)
      (.wrongPassword hfound rfl rfl)
  obtain ⟨-, -, -, hsame, -⟩ := failures_answered_alike rfl rfl hunknown hwrong
    (site.reads_posting _ _) (site.reads_posting _ _)
  exact ⟨hunknown, hwrong, hsame rfl⟩

/-- A page that may read the response is told so, and nobody else is. -/
theorem failures_differ_by_origin :
    let home : Request := ⟨"GET", "/api/v1/auth/me", [], []⟩
    let page : Request := ⟨"GET", "/api/v1/auth/me", [("Origin", "http://localhost")], []⟩
    let state := State.start .epoch
    let site : Site := .ofOrigins Settings.defaultOrigins
    home.Fails .lenient state .unknownCaller ∧ page.Fails .lenient state .unknownCaller ∧
      ((respond .lenient site home).run state).1.headers ≠
        ((respond .lenient site page).run state).1.headers := by
  intro home page state site
  have hprotected : Route.identity.IsProtected := trivial
  have hhomeAsks : home.Asks .identity := ⟨by decide +kernel, rfl⟩
  have hpageAsks : page.Asks .identity := ⟨by decide +kernel, rfl⟩
  have hhome : home.Fails .lenient state .unknownCaller :=
    .anonymous hhomeAsks hprotected (by rintro ⟨⟩) (.unmarked rfl)
  have hpage : page.Fails .lenient state .unknownCaller :=
    .anonymous hpageAsks hprotected (by rintro ⟨⟩) (.unmarked (by decide +kernel))
  refine ⟨hhome, hpage, ?_⟩
  have hhomeReads : site.reads home = true := rfl
  have hpageReads : site.reads page = true := by decide +kernel
  rw [hhome.respond_eq rfl hhomeReads, hpage.respond_eq rfl hpageReads]
  decide +kernel

end Http

end AccountSessions
