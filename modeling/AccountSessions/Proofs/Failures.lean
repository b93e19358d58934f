import AccountSessions.Proofs.Exchanges
import AccountSessions.Proofs.Registrations
import AccountSessions.Proofs.SmallDeployment

/-!
# What failures leave behind

An operation makes its one change when nothing can fail any more.  So a call that fails
has left every table alone and has published nothing.  A request hands at most one such
call on, and what follows a call that succeeds is an answer with a status of success.

Two things come after the change all the same.  The path of a request is read for the log
when the request has been handled, and a login notes its time when the record of its
session has been stored.
-/

namespace AccountSessions

theorem Effect.eq_of_error
    {service : Service} {ids : TokenIds} {now : Moment} {db later : Database} {call : Call}
    {failure : Failure} (heffect : Effect service ids now db call (.error failure) later) :
    later = db := by
  cases heffect with
  | read _ => rfl
  | refused _ => rfl

theorem Call.leads_of_error
    {state : State} (hundisturbed : state.disturbances = []) {service : Service} {call : Call}
    {failure : Failure} (hfails : (exec (call.perform service) state).1 = .error failure) :
    Leads state state.database (exec (call.perform service) state).2 := by
  have hends := effect_of_perform hundisturbed service call
  have hleads := hends.leads_of_error hfails
  obtain ⟨heffect, -⟩ := hends.apply
  rw [hfails] at heffect
  rwa [heffect.eq_of_error] at hleads

theorem Call.ends_operation
    {state : State} (hundisturbed : state.disturbances = []) {service : Service} (call : Call)
    {α : Type} {operation : Operation α} {answer : α → Answer}
    (hperform : call.perform service = answer <$> operation) :
    Ends operation state fun outcome database =>
      ∀ failure, outcome = .error failure → database = state.database := by
  have hends := effect_of_perform hundisturbed service call
  rw [hperform] at hends
  apply hends.of_map.mono
  rintro outcome database heffect failure rfl
  exact heffect.eq_of_error

/-! ## Requests -/

namespace Http

open Handling

/-- The request is answered with a status below those of errors, or it is rejected and
the database is as it was. -/
def Served (state : State) (outcome : Except Rejection Response) (database : Database) : Prop :=
  (∃ response, outcome = .ok response ∧ response.status < 400) ∨
    (∃ rejection, outcome = .error rejection) ∧ database = state.database

variable {state middle : State}

theorem Served.answers
    {response : Response} (hstatus : response.status < 400) (database : Database) :
    Served state (.ok response) database :=
  .inl ⟨response, rfl, hstatus⟩

theorem Served.rejects (rejection : Rejection) :
    Served state (.error rejection) state.database :=
  .inr ⟨⟨rejection, rfl⟩, rfl⟩

theorem ends_readBody_bind
    (hbefore : Leads state state.database middle) (request : Request)
    {next : Json → Handling Response}
    (hnext : ∀ body, Ends (next body) middle (Served state)) :
    Ends (readBody request >>= next) middle (Served state) := by
  obtain ⟨outcome, hexec⟩ := exec_readBody request
  cases outcome with
  | ok body => exact .stay (hexec middle) (hnext body)
  | error rejection =>
      exact .last hbefore (.bind_error ⟨middle, hexec middle, .refl middle⟩) (.rejects rejection)

theorem ends_require_bind
    (hbefore : Leads state state.database middle) {α : Type} (fields : Checked α)
    {next : α → Handling Response} (hnext : ∀ form, Ends (next form) middle (Served state)) :
    Ends (require fields >>= next) middle (Served state) := by
  obtain ⟨outcome, hexec⟩ := exec_require fields
  cases outcome with
  | ok form => exact .stay (hexec middle) (hnext form)
  | error rejection =>
      exact .last hbefore (.bind_error ⟨middle, hexec middle, .refl middle⟩) (.rejects rejection)

/-- A request that ends with the answer to an operation which keeps the database when it
fails. -/
theorem ends_answer
    (hbefore : Leads state state.database middle) {α : Type} {operation : Operation α}
    {answer : α → Response}
    (hends : Ends operation middle fun outcome database =>
      ∀ failure, outcome = .error failure → database = middle.database)
    (hstatus : ∀ value, (answer value).status < 400) :
    Ends (do return answer (← ofOperation operation)) middle (Served state) := by
  rw [bind_pure_comp]
  have hserved : Ends (ofOperation operation) middle fun outcome database =>
      Served state (outcome.map answer) database := by
    apply ends_ofOperation hends
    rintro (failure | value) database hkeeps
    · rw [hkeeps failure rfl, hbefore.database]
      exact .rejects (.failed failure)
    · exact .answers (hstatus value) database
  exact hserved.map fun _ _ hanswered => hanswered

theorem ends_identify_bind
    (hundisturbed : state.disturbances = []) (service : Service) (request : Request)
    {next : Token.Claims → Handling Response}
    (hnext : ∀ claims later, Leads state state.database later →
      Ends (next claims) later (Served state)) :
    Ends (identify service request >>= next) state (Served state) :=
  .pass (.refl state) (rests_identify hundisturbed service request) .rejects hnext

theorem ends_serve
    (hundisturbed : state.disturbances = []) (service : Service) (request : Request)
    (route : Route) :
    Ends (route.serve service request) state (Served state) := by
  unfold Route.serve
  cases route with
  | health =>
      have hprobe : Yields probe state (.ok true) state.database :=
        .tryCatch (Store.yields_ping hundisturbed)
      refine ends_answer (.refl state) ?_ fun _ => (by decide : 200 < 400)
      exact .last (.refl state) hprobe fun _ _ => rfl
  | register =>
      refine ends_readBody_bind (.refl state) request fun body => ?_
      refine ends_require_bind (.refl state) _ fun form => ?_
      exact ends_answer (.refl state)
        (Call.ends_operation hundisturbed
          (.register form.username form.email form.password form.name) rfl)
        fun _ => (by decide : 201 < 400)
  | login =>
      refine ends_readBody_bind (.refl state) request fun body => ?_
      refine ends_require_bind (.refl state) _ fun form => ?_
      exact ends_answer (.refl state)
        (Call.ends_operation hundisturbed (.login form.identifier form.password) rfl)
        fun _ => (by decide : 200 < 400)
  | refresh =>
      refine ends_readBody_bind (.refl state) request fun body => ?_
      refine ends_require_bind (.refl state) _ fun form => ?_
      exact ends_answer (.refl state)
        (Call.ends_operation hundisturbed (.refresh form.refreshToken) rfl)
        fun _ => (by decide : 200 < 400)
  | logout =>
      refine ends_readBody_bind (.refl state) request fun body => ?_
      refine ends_identify_bind hundisturbed service request fun claims known hknown => ?_
      refine ends_require_bind hknown _ fun form => ?_
      exact ends_answer hknown
        (Call.ends_operation (hknown.disturbances.trans hundisturbed)
          (.logout claims.userId form.refreshToken) rfl)
        fun _ => (by decide : 200 < 400)
  | logoutAll =>
      refine ends_identify_bind hundisturbed service request fun claims known hknown => ?_
      exact ends_answer hknown
        (Call.ends_operation (hknown.disturbances.trans hundisturbed) (.logoutAll claims.userId) rfl)
        fun _ => (by decide : 200 < 400)
  | identity =>
      refine ends_identify_bind hundisturbed service request fun claims known hknown => ?_
      cases claimsToJson claims with
      | sound body => exact .last hknown (.pure _ known) (.answers (by decide : 200 < 400) _)
      | flawed _ => exact .last hknown (.throw _ known) (.rejects _)

theorem served_elsewhere (site : Site) (request : Request) (state : State) :
    Served state (elsewhere site request) state.database := by
  unfold elsewhere
  dsimp only
  cases Page.ofPath? (Target.ofText request.target).path with
  | some page =>
      dsimp only
      split
      · exact .answers (by decide : 200 < 400) _
      · exact .rejects _
  | none =>
      dsimp only
      split
      · exact .answers (by decide : 307 < 400) _
      · exact .rejects _

theorem ends_dispatch
    (hundisturbed : state.disturbances = []) (service : Service) (site : Site)
    (request : Request) :
    Ends (dispatch service site request) state (Served state) := by
  cases hpath : Route.ofPath? (Target.ofText request.target).path with
  | some route =>
      unfold dispatch
      rw [hpath]
      dsimp only
      by_cases hmethod : request.method = route.method
      · rw [if_pos hmethod]
        exact ends_serve hundisturbed service request route
      · rw [if_neg hmethod]
        exact .last (.refl state) (.throw _ state) (.rejects _)
  | none =>
      exact .last (.refl state)
        ⟨state, exec_dispatch_elsewhere hpath service site state, .refl state⟩
        (served_elsewhere site request state)

/-- A request that is answered with the status of an error was rejected, if its address
could be read. -/
theorem respond_leads
    (hundisturbed : state.disturbances = []) (service : Service) {site : Site}
    {request : Request} (hreads : site.reads request = true)
    (hstatus : 400 ≤ ((respond service site request).run state).1.status) :
    Leads state state.database ((respond service site request).run state).2 := by
  by_cases hpreflight : CrossOrigin.isPreflight request = true
  · rw [respond_state, if_pos hpreflight]
    exact .refl state
  · obtain ⟨response, hrun, hsends⟩ := run_respond service site hpreflight state
    rw [hrun] at hstatus ⊢
    dsimp only at hstatus ⊢
    have hends := ends_dispatch hundisturbed service site request
    rcases hends.apply.1 with ⟨answer, hok, hbelow⟩ | ⟨⟨rejection, herror⟩, hdatabase⟩
    · rw [hok] at hsends
      have hanswer : response.status = answer.status := (hsends.tells hreads).status
      omega
    · have hleads := hends.leads_of_error herror
      rwa [hdatabase] at hleads

end Http

/-! ## Logins that are interrupted -/

namespace Service

variable {state : State} {service : Service} {account : Account}

theorem exec_login_admitted
    (hspared : state.disturbance? .accountByIdentifier = none) {identifier password : String}
    (hfound : state.database.accountOf? identifier = some account)
    (hverified : account.emailVerified = true)
    (hright : Password.verify password account.passwordHash = true)
    (hactive : account.isActive = true) :
    ∃ log published, exec (service.login identifier password) state =
      exec (service.opening account) { state with log, published } := by
  unfold login
  obtain ⟨log, published, hexec⟩ := (hushes_note .info .service "Login attempt" state).exec_bind _
  rw [hexec]
  have hnoted : ({ state with log, published } : State).disturbance? .accountByIdentifier = none :=
    hspared
  obtain ⟨log, published, hexec⟩ :=
    (Store.hushes_accountByIdentifier hnoted identifier).exec_bind _
  rw [hexec]
  dsimp only
  rw [hfound]
  dsimp only
  rw [if_neg (by simp [hverified])]
  obtain ⟨log, published, hexec⟩ :=
    (hushes_checkPassword password account.passwordHash _).exec_bind _
  rw [hexec]
  dsimp only
  rw [if_neg (by simp [hright]), if_neg (by simp [hactive])]
  exact ⟨log, published, rfl⟩

/-- The record has been stored when the time is to be noted. -/
theorem exec_opening_interrupted
    (hspared : state.disturbance? .createRecord = none) {failure : Failure}
    (hfails : state.disturbance? .stampLogin = some (.failing failure))
    (hfits : Store.fitsColumn account.id = true) {accessToken refreshToken : String}
    (haccess : service.issuer.issue .access state.now state.tokenIds.next account.id
      (some account.email) = .ok accessToken)
    (hrefresh : service.issuer.issue .refresh state.now state.tokenIds.rest.next account.id
      (some account.email) = .ok refreshToken)
    {expires : Moment} (hexpires : state.now.add? service.issuer.refreshTtl = some expires)
    {id : Int} {added : Database}
    (hadd : state.database.addRecord? account.id refreshToken expires state.now =
      some (id, added)) :
    (exec (service.opening account) state).1 = .error failure ∧
      (exec (service.opening account) state).2.database = added := by
  unfold opening
  rw [exec_bind, exec_issue, haccess]
  simp only [Except.mapError]
  rw [exec_bind, exec_issue, hrefresh]
  simp only [Except.mapError]
  rw [exec_bind, Operation.exec_now]
  dsimp only
  rw [hexpires]
  dsimp only
  let issued : State := { state with tokenIds := state.tokenIds.rest.rest }
  have hissued : issued.disturbance? .createRecord = none := hspared
  obtain ⟨log, hcreate⟩ := Store.exec_createRecord hissued hfits hadd
  let stored : State := { issued with database := added, log }
  have hstored : stored.disturbance? .stampLogin = some (.failing failure) := hfails
  have hstamp : exec (Store.stampLogin account.id none) stored = (.error failure, stored) :=
    Store.exec_guarded_failing hstored _ _ _
  rw [exec_bind_ok hcreate, exec_bind_error hstamp]
  exact ⟨rfl, rfl⟩

/-- A login that would open a session leaves the record of it if the store fails to note
the time. -/
theorem exec_login_interrupted
    {later : State} (hundisturbed : state.disturbances = []) {identifier password : String}
    {session : Session}
    (hlogin : exec (service.login identifier password) state = (.ok session, later))
    (failure : Failure) :
    let interrupted := state.disturb .stampLogin (some (.failing failure))
    ∃ record,
      later.database.records = state.database.records ++ [record] ∧
      (exec (service.login identifier password) interrupted).1 = .error failure ∧
      (exec (service.login identifier password) interrupted).2.database =
        { state.database with records := state.database.records ++ [record] } := by
  intro interrupted
  have hdisturbed (call : StoreCall) : interrupted.disturbance? call =
      if call = .stampLogin then some (.failing failure) else none := by
    by_cases hsame : call = .stampLogin
    · simp [interrupted, State.disturbance?, State.disturb, hundisturbed, hsame]
    · simp [interrupted, State.disturbance?, State.disturb, hundisturbed, hsame, Ne.symm hsame]
  have hend := exec_login hundisturbed service identifier password
  rw [hlogin] at hend
  obtain ⟨account, hfound, hverified, hright, hactive, hopening⟩ := hend.exists_opening rfl
  cases hopening with
  | opened haccess hrefresh hexpires hadd hfits =>
      have hfinds := hdisturbed .accountByIdentifier
      obtain ⟨log, published, hexec⟩ : ∃ log published,
          exec (service.login identifier password) interrupted =
            exec (service.opening account) { interrupted with log, published } :=
        exec_login_admitted hfinds hfound hverified hright hactive
      let admitted : State := { interrupted with log, published }
      have hcreates : admitted.disturbance? .createRecord = none := hdisturbed .createRecord
      have hstamps : admitted.disturbance? .stampLogin = some (.failing failure) :=
        hdisturbed .stampLogin
      obtain ⟨hfails, hstays⟩ :=
        exec_opening_interrupted hcreates hstamps hfits haccess hrefresh hexpires hadd
      obtain ⟨record, rfl, -⟩ := Database.exists_of_addRecord? hadd
      rw [hexec]
      exact ⟨record, rfl, hfails, hstays⟩

end Service

namespace Http

/-- A login that would be answered, but whose time the store fails to note. -/
theorem respond_interrupted
    (hundisturbed : state.disturbances = []) {service : Service} {request : Request}
    (hasks : request.Asks .login) {site : Site}
    (hstatus : ((respond service site request).run state).1.status < 400) (failure : Failure) :
    let interrupted := state.disturb .stampLogin (some (.failing failure))
    ∃ record,
      ((respond service site request).run state).2.database.records =
        state.database.records ++ [record] ∧
      ((respond service site request).run interrupted).1.Tells
        (Rejection.failed failure).response ∧
      ((respond service site request).run interrupted).2.database =
        { state.database with records := state.database.records ++ [record] } := by
  intro interrupted
  obtain ⟨answered, hanswered, hsends⟩ := hasks.respond_sends service site state
  rw [hanswered] at hstatus ⊢
  dsimp only at hstatus ⊢
  have hreads := hsends.reads_of_lt hstatus
  rcases hserve : exec (Route.login.serve service request) state with ⟨outcome, later⟩
  rw [hserve] at hsends
  cases outcome with
  | error rejection =>
      have hrejects := (hsends.tells hreads).status
      have hlow := rejection.le_status
      rw [hrejects] at hstatus
      exact absurd hstatus (Nat.not_lt.mpr hlow)
  | ok response =>
      obtain ⟨form, session, hlogin, hserves⟩ :=
        (Route.handsOn_login service).exists_form hserve
      obtain ⟨record, hrecords, hfails, hstays⟩ :=
        Service.exec_login_interrupted hundisturbed hlogin failure
      obtain ⟨refused, hrefused, hrefusal⟩ := hasks.respond_sends service site interrupted
      rw [hserves interrupted] at hrefused hrefusal
      rw [hfails] at hrefusal
      rw [hrefused]
      exact ⟨record, hrecords, hrefusal.tells hreads, hstays⟩

end Http

/-! ## The whole -/

/-- A call that fails leaves both tables as they were and publishes nothing: besides the log
only the supplies of token ids and of salts have advanced.  So does a request that is answered
with the status of an error, if its address can be read.  A request whose address cannot be
read does what it would have done elsewhere and gets no more than a bare error, and a login
whose time the store fails to note leaves the record of a session that is given to nobody. -/
theorem traces_of_failures
    (service : Service) {state : State} (hundisturbed : state.disturbances = []) :
    (∀ (call : Call) (failure : Failure),
      (exec (call.perform service) state).1 = .error failure →
      Leads state state.database (exec (call.perform service) state).2) ∧
    ∀ (site : Http.Site) (request : Http.Request),
      let result := (Http.respond service site request).run state
      (site.reads request = true → 400 ≤ result.1.status →
        Leads state state.database result.2) ∧
      (site.reads request = false → result.1 = .bare ∧
        ∀ other, ((Http.respond service other request).run state).2 = result.2) ∧
      (request.Asks .login → result.1.status < 400 → ∀ failure,
        let interrupted := (Http.respond service site request).run
          (state.disturb .stampLogin (some (.failing failure)))
        ∃ record,
          result.2.database.records = state.database.records ++ [record] ∧
          interrupted.1.Tells (Http.Rejection.failed failure).response ∧
          interrupted.2.database =
            { state.database with records := state.database.records ++ [record] }) := by
  refine ⟨fun _ _ hfails => Call.leads_of_error hundisturbed hfails, ?_⟩
  intro site request result
  refine ⟨fun hreads hstatus => Http.respond_leads hundisturbed service hreads hstatus, ?_, ?_⟩
  · exact fun hunread => ⟨Http.respond_unread service hunread state,
      fun other => Http.respond_state_eq service other site request state⟩
  · exact fun hasks hstatus failure => Http.respond_interrupted hundisturbed hasks hstatus failure

namespace Entered

variable {history : List Entry} {state : State} {ann bob : Session}
  (hentered : Entered history state ann bob)

include hentered

/-- If Ann gets the id of her token once more, her next login collides with its record. -/
theorem exists_collision :
    ∃ tokenId,
      let repeating : State :=
        { state with now := .epoch, tokenIds := { state.tokenIds with fixed := some tokenId } }
      (exec ((Call.login "ann" "p").perform .lenient) repeating).1 =
        .error (.usual .tokenCollision) := by
  obtain ⟨tokenId, hissued⟩ := hentered.annIssued
  refine ⟨tokenId, ?_⟩
  intro repeating
  have hcalm : repeating.disturbances = [] := hentered.deployed.twins.undisturbed
  obtain ⟨account, hadmits, hid, hemail⟩ :=
    hentered.annEnrolled.admits hentered.deployed.named rfl (.inl rfl)
  have hopening : Service.OpeningEnd .lenient repeating account
      (exec (Service.lenient.login "ann" "p") repeating) :=
    (Service.exec_login hcalm .lenient "ann" "p").of_admitted hadmits.found hadmits.verified
      hadmits.accepts hadmits.active
  have hepoch : Moment.epoch.InEra := ⟨by decide, by decide⟩
  rw [Call.perform, exec_map]
  generalize exec (Service.lenient.login "ann" "p") repeating = result at hopening ⊢
  cases hopening with
  | accessFails hfails =>
      obtain ⟨token, htoken⟩ := Service.lenient_issues hepoch .access repeating.tokenIds.next
        account.id account.email
      cases htoken.symm.trans hfails
  | refreshFails _ hfails =>
      obtain ⟨token, htoken⟩ := Service.lenient_issues hepoch .refresh
        repeating.tokenIds.rest.next account.id account.email
      cases htoken.symm.trans hfails
  | unfit hoverflow => exact absurd hadmits.fits hoverflow
  | taken => rfl
  | opened _ hrefresh _ hadd =>
      obtain ⟨-, -, -, -, -, hnew⟩ := Database.exists_of_addRecord? hadd
      rw [hid, hemail] at hrefresh
      obtain rfl := Except.ok.inj (hissued.symm.trans hrefresh)
      obtain ⟨hash, other, -, -, hrows⟩ := hentered.rows
      let record : SessionRecord :=
        ⟨1, 1, ann.refreshToken, { micros := 604800000000 }, .epoch, none⟩
      have hstored : record ∈ repeating.database.records := by
        rw [show repeating.database = _ from hrows]
        exact List.mem_cons_self
      exact absurd rfl (hnew record hstored)

theorem refuses_bob (email name : String) :
    (exec (Service.lenient.register "bob" email "p" name) { state with now := .epoch }).1 =
      .error (.usual .duplicateUser) := by
  obtain ⟨hash, other, -, -, hrows⟩ := hentered.rows
  let clocked : State := { state with now := .epoch }
  have hcalm : clocked.disturbances = [] := hentered.deployed.twins.undisturbed
  obtain ⟨houtcome, -⟩ :=
    (Service.ends_registration_outcome hcalm .lenient "bob" email "p" name).apply
  refine (houtcome.duplicateUser_iff Service.lenient_accepts).mpr ?_
  rw [show clocked.database = _ from hrows]
  exact ⟨_, List.mem_cons_of_mem _ List.mem_cons_self, .inl rfl⟩

theorem enlists_eve :
    ∃ account later,
      exec (Service.lenient.register "eve" "e@b.org" "p" "") { state with now := .epoch } =
        (.ok account, later) ∧ later.database.accounts.length = 3 := by
  obtain ⟨hash, other, -, -, hrows⟩ := hentered.rows
  let clocked : State := { state with now := .epoch }
  have hcalm : clocked.disturbances = [] := hentered.deployed.twins.undisturbed
  have hclocked : clocked.database = _ := hrows
  have hfree : clocked.database.isTaken "eve" "e@b.org" = false := by
    rw [hclocked]
    simp [Database.isTaken, Account.clashes]
  have hroom : Store.isFull clocked.database = false := by
    rw [hclocked]
    rfl
  obtain ⟨account, haccepted⟩ :=
    (Service.ends_register_accepted hcalm .lenient Service.lenient_accepts Service.lenient_hash
      hfree hroom "").apply.1
  rcases hexec : exec (Service.lenient.register "eve" "e@b.org" "p" "") clocked
    with ⟨outcome, later⟩
  rw [hexec] at haccepted
  obtain rfl : outcome = .ok account := haccepted
  obtain ⟨_, -, -, -, hadded⟩ := exists_row_of_register hcalm hexec
  refine ⟨account, later, rfl, ?_⟩
  rw [hadded, hclocked]
  rfl

theorem admits_ann :
    ∃ session later,
      exec (Service.lenient.login "ann" "p") { state with now := .epoch } = (.ok session, later) := by
  obtain ⟨session, -, henters⟩ :=
    Service.lenient_enters hentered.deployed hentered.annEnrolled (by decide)
  have houtcome := henters.outcome
  rw [step, Call.perform, exec_map] at houtcome
  rcases hexec : exec (Service.lenient.login "ann" "p") { state with now := .epoch }
    with ⟨outcome, later⟩
  rw [hexec] at houtcome
  cases outcome with
  | error failure => cases houtcome
  | ok opened => exact ⟨opened, later, rfl⟩

end Entered

/-- Ann and bob have logged in.  Ann's next login would collide with her first one, and
somebody else asks for bob's name.  Then eve registers from a host whose name cannot be read,
and the store fails while it notes the time of a login of Ann's. -/
theorem traces_of_failures_beside_ann :
    let site : Http.Site := .ofOrigins []
    let rival := Http.Request.posting "/api/v1/auth/register"
      [("username", "bob"), ("email", "c@b.org"), ("password", "p")]
    let eve := Http.Request.posting "/api/v1/auth/register"
      [("username", "eve"), ("email", "e@b.org"), ("password", "p")]
    let unread := { eve with headers := ("Host", "[") :: eve.headers }
    let login := Http.Request.posting "/api/v1/auth/login" [("identifier", "ann"), ("password", "p")]
    ∃ (state : State) (tokenId : String),
      let repeating : State := { state with tokenIds := { state.tokenIds with fixed := some tokenId } }
      let collision := exec ((Call.login "ann" "p").perform .lenient) repeating
      let refused := (Http.respond .lenient site rival).run state
      let lost := (Http.respond .lenient site unread).run state
      let interrupted := (Http.respond .lenient site login).run
        (state.disturb .stampLogin (some (.failing (.broken .databaseFailed))))
      state.database.accounts.length = 2 ∧ state.database.records.length = 2 ∧
      collision.1 = .error (.usual .tokenCollision) ∧
      Leads repeating state.database collision.2 ∧
      refused.1.status = 409 ∧ Leads state state.database refused.2 ∧
      lost.1 = .bare ∧ lost.2.database.accounts.length = 3 ∧
      interrupted.1.status = 500 ∧ interrupted.2.database.records.length = 3 := by
  intro site rival eve unread login
  obtain ⟨history, entered, ann, bob, hentered⟩ := exists_entered
  obtain ⟨tokenId, hcollides⟩ := hentered.exists_collision
  obtain ⟨hash, other, -, -, hrows⟩ := hentered.rows
  let state : State := { entered with now := .epoch }
  have hcalm : state.disturbances = [] := hentered.deployed.twins.undisturbed
  have hstate : state.database = _ := hrows
  let repeating : State := { state with tokenIds := { state.tokenIds with fixed := some tokenId } }
  have hrepeating : repeating.disturbances = [] := hcalm
  have hpassword : Http.TextRule.password.check "p" = .ok "p" :=
    Http.TextRule.check_eq_ok.mpr (by decide +kernel)
  have hrival : rival.Submits .register _ :=
    Http.Request.submits_posting rfl rfl (List.cons_ne_nil _ _) (by decide)
  have heve : eve.Submits .register _ :=
    Http.Request.submits_posting rfl rfl (List.cons_ne_nil _ _) (by decide)
  have hunread : unread.Submits .register _ :=
    ⟨⟨heve.path, heve.method⟩, heve.nonempty, by decide +kernel, heve.content⟩
  have hlogin : login.Submits .login _ :=
    Http.Request.submits_posting rfl rfl (List.cons_ne_nil _ _) (by decide)
  have hrefused : ((Http.respond .lenient site rival).run state).1.status = 409 := by
    have hread := Http.Registration.read_texts
      (show Http.TextRule.username.check "bob" = .ok "bob" from
        Http.TextRule.check_eq_ok.mpr (by decide +kernel))
      (show Http.TextRule.address.check "c@b.org" = .ok "c@b.org" from
        Http.TextRule.check_eq_ok.mpr (by decide +kernel)) hpassword
    obtain ⟨response, hrun, hsends⟩ :=
      hrival.reaches (Http.Route.handsOn_register .lenient) hread state site
    rw [hentered.refuses_bob] at hsends
    rw [hrun]
    exact (hsends.tells (site.reads_posting _ _)).status
  have hlost : ((Http.respond .lenient site unread).run state).2.database.accounts.length = 3 := by
    have hread := Http.Registration.read_texts
      (show Http.TextRule.username.check "eve" = .ok "eve" from
        Http.TextRule.check_eq_ok.mpr (by decide +kernel))
      (show Http.TextRule.address.check "e@b.org" = .ok "e@b.org" from
        Http.TextRule.check_eq_ok.mpr (by decide +kernel)) hpassword
    obtain ⟨account, later, henlisted, hcount⟩ := hentered.enlists_eve
    obtain ⟨response, hrun, -⟩ :=
      hunread.respond_value (Http.Route.handsOn_register .lenient) hread henlisted site
    rw [hrun]
    exact hcount
  have hanswered : ((Http.respond .lenient site login).run state).1.status = 200 := by
    have hread := Http.Credentials.read_texts
      (show Http.TextRule.identifier.check "ann" = .ok "ann" from
        Http.TextRule.check_eq_ok.mpr (by decide +kernel)) hpassword
    obtain ⟨session, later, hadmitted⟩ := hentered.admits_ann
    obtain ⟨response, hrun, hsends⟩ :=
      hlogin.respond_value (Http.Route.handsOn_login .lenient) hread hadmitted site
    rw [hrun]
    exact (hsends.tells (site.reads_posting _ _)).status
  obtain ⟨hcalls, -⟩ := traces_of_failures .lenient hrepeating
  obtain ⟨-, hrequests⟩ := traces_of_failures .lenient hcalm
  obtain ⟨hrejected, -, -⟩ := hrequests site rival
  obtain ⟨-, hbare, -⟩ := hrequests site unread
  obtain ⟨-, -, hinterrupted⟩ := hrequests site login
  obtain ⟨record, -, htells, hstays⟩ :=
    hinterrupted hlogin.toAsks (by rw [hanswered]; decide) (.broken .databaseFailed)
  refine ⟨state, tokenId, by rw [hstate]; rfl, by rw [hstate]; rfl, hcollides,
    hcalls (.login "ann" "p") _ hcollides, hrefused,
    hrejected (site.reads_posting _ _) (by rw [hrefused]; decide),
    (hbare (by decide +kernel)).1, hlost, htells.status, ?_⟩
  rw [hstays, hstate]
  rfl

end AccountSessions
