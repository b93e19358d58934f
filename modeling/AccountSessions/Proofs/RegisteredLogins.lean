import AccountSessions.Proofs.Deployments
import AccountSessions.Proofs.Exchanges
import AccountSessions.Proofs.SmallDeployment
import AccountSessions.Proofs.TokenText

/-!
# Registered users log in

What a user submitted to register lets the user in, once the address is verified: with
either name as it was submitted, and with the password.  Nobody else can take the names,
the hash is never changed, and nothing in the deployment stands in the way but a block of
the user.  The access token then tells who the user is until it ends.
-/

namespace AccountSessions

/-! ## Enrolments in a deployment -/

theorem Enrolment.onward
    {service : Service} {start state : State} {userId : Int} {username email password : String}
    {verified : Bool}
    (henrolment : Enrolment userId username email password verified start.database)
    (honward : Onward service userId start state) (hundisturbed : start.disturbances = []) :
    Enrolment userId username email password verified state.database := by
  obtain ⟨hash, haccepts, henrolled⟩ := henrolment.enrolled
  exact { henrolment with
    enrolled := ⟨hash, haccepts, Onward.enrolled honward hundisturbed henrolled⟩ }

/-- A verification verifies whoever has registered. -/
theorem Enrolment.isVerified_after
    {service : Service} {state : State} (hundisturbed : state.disturbances = []) {userId : Int}
    {username email password : String} {verified : Bool}
    (henrolment : Enrolment userId username email password verified state.database)
    (moment : Moment) :
    ((Doing.verification userId).after service state moment).database.IsVerified userId :=
  henrolment.isVerified_step hundisturbed service moment

/-! ## Tokens that are issued and shown -/

namespace Http

/-- Whoever shows the token between the seconds of the moments is told the id and the address
of the user, in any state. -/
def Identifies (service : Service) (token : String) (userId : Int) (email : String)
    (first last : Moment) : Prop :=
  ∀ (state : State) (site : Site) (request : Request), request.Asks .identity →
    request.header? "authorization" = some ("Bearer " ++ token) →
    first.second ≤ state.now.second → state.now.second ≤ last.second →
    ∃ response body, (respond service site request).run state = (response, state) ∧
      site.Sends request (.json 200 body) response ∧
      body.member? "user_id" = some (.int userId) ∧ body.member? "email" = some (.text email)

theorem identifies_of_issue
    {service : Service} (hplain : Token.isPlainSecret service.issuer.secret = true)
    {now expires : Moment} {tokenId email token : String} {userId : Int}
    (hreadable : Token.Grant.Readable ⟨.access, userId, email, tokenId, now, expires⟩)
    (hissue : service.issuer.issue .access now tokenId userId (some email) = .ok token)
    (hexpires : now.add? service.issuer.accessTtl = some expires) (hnow : now.InEra)
    (hlast : expires.InEra) :
    Identifies service token userId email now expires := by
  let grant : Token.Grant := ⟨.access, userId, email, tokenId, now, expires⟩
  obtain ⟨_, -, hsign⟩ := Token.Issuer.issue_eq_ok.mp hissue
  obtain ⟨htrimmed, hnonempty⟩ := Token.trimEnds_of_sign hsign
  intro state site request hasks hheader hfrom huntil
  let claims := grant.claims now.startOfSecond expires.startOfSecond
  have hvalid : service.issuer.validate state.now .access token = .ok claims :=
    Token.Issuer.validate_issued hplain hreadable hissue hexpires hnow hlast hfrom huntil
  have hemail : claims.email = .plain email := rfl
  have htokenId : claims.tokenId = .plain tokenId := rfl
  have hkind : claims.tokenType = .text Token.Kind.access.name := rfl
  obtain ⟨response, hrun, hsends⟩ := respond_identity hasks hheader htrimmed hnonempty
    hvalid (claimsToJson_plain hemail htokenId hkind) site
  exact ⟨response, _, hrun, hsends, rfl, rfl⟩

end Http

/-! ## Logins -/

/-- The body submits the texts for a login. -/
structure Http.Credentials.Spells (body : Json) (identifier password : String) : Prop where
  object : body.isObject = true
  identifier : body.member? "identifier" = some (.text identifier)
  password : body.member? "password" = some (.text password)

/-- An enrolled and verified user is let in and gets an access token of their own. -/
theorem Enrolment.login
    {service : Service} (hplain : Token.isPlainSecret service.issuer.secret = true)
    {ids : Nat → String} (hids : Function.Injective ids) (hnonempty : ∀ number, ids number ≠ "")
    {state : State} (hdeployed : Deployed service ids state) {userId : Int}
    {username email password identifier : String}
    (henrolment : Enrolment userId username email password true state.database)
    (hemail : email ≠ "") (hidentifier : identifier = username ∨ identifier = email)
    {now accessEnd refreshEnd : Moment} (hnow : now.InEra)
    (haccess : now.add? service.issuer.accessTtl = some accessEnd) (hlast : accessEnd.InEra)
    (hrefresh : now.add? service.issuer.refreshTtl = some refreshEnd) :
    ∃ session later,
      exec (service.login identifier password) { state with now := now } = (.ok session, later) ∧
      session.account.id = userId ∧ session.account.email = email ∧
      Http.Identifies service session.accessToken userId email now accessEnd := by
  obtain ⟨account, hadmits, rfl, rfl⟩ := henrolment.admits hdeployed.named rfl hidentifier
  have hissues : ∀ kind tokenId, ∃ token,
      service.issuer.issue kind now tokenId account.id (some account.email) = .ok token := by
    intro kind tokenId
    cases kind with
    | access => exact Token.Issuer.exists_issue_of_plain hplain haccess tokenId _ _
    | refresh => exact Token.Issuer.exists_issue_of_plain hplain hrefresh tokenId _ _
  obtain ⟨hopening, session, hsession⟩ :=
    Service.opens_of_admits (hdeployed.twins.clocked now) hids hadmits hissues
  rcases hexec : exec (service.login identifier password) { state with now := now }
    with ⟨outcome, later⟩
  rw [hexec] at hopening hsession
  refine ⟨session, later, Prod.ext hsession rfl, ?_⟩
  cases hopening with
  | accessFails | refreshFails | unfit | taken => cases hsession
  | opened haccessIssue =>
      obtain rfl := Except.ok.inj hsession
      refine ⟨rfl, rfl, ?_⟩
      have htokenId : state.tokenIds.next ≠ "" := by
        rw [TokenIds.next_of_unfixed hdeployed.twins.fixed, hdeployed.twins.text]
        exact hnonempty _
      have hreadable : Token.Grant.Readable
          ⟨.access, account.id, account.email, state.tokenIds.next, now, accessEnd⟩ :=
        .of_fits henrolment.positive henrolment.fits hemail htokenId
      exact Http.identifies_of_issue hplain hreadable haccessIssue haccess hnow hlast

section FirstRegistration

variable {service : Service} {registration : Http.Request} {form : Json}
variable {fields : Http.Registration} (hsubmits : registration.Submits .register form)
  (hread : Http.Registration.read form = .sound fields)
  (hpolicy : service.policy.check fields.password = none)
  (hhash : ∀ salt, ∃ hash, Password.hash service.hasher.rounds salt fields.password = .ok hash)

include hsubmits hread hpolicy hhash

/-- Nobody stands in the way of the first user of a deployment. -/
theorem exists_created
    {site : Http.Site} (hreads : site.reads registration = true) (begin : Moment)
    (ids : Nat → String) (moment : Moment) :
    ∃ answer account registered,
      (Http.respond service site registration).run { State.start begin ids with now := moment } =
        (answer, registered) ∧
      answer.status = 201 ∧
      exec (service.register fields.username fields.email fields.password fields.name)
        { State.start begin ids with now := moment } = (.ok account, registered) := by
  let start : State := { State.start begin ids with now := moment }
  have hregisters : Ends
      (service.register fields.username fields.email fields.password fields.name) start
      fun outcome _ => ∃ account, outcome = .ok account :=
    Service.ends_register_accepted rfl service hpolicy hhash rfl rfl fields.name
  obtain ⟨account, haccepted⟩ := hregisters.apply.1
  rcases hregister : exec
      (service.register fields.username fields.email fields.password fields.name) start
    with ⟨outcome, registered⟩
  rw [hregister] at haccepted
  obtain rfl : outcome = .ok account := haccepted
  obtain ⟨answer, hanswered, hsends⟩ :=
    hsubmits.respond_value (Http.Route.handsOn_register service) hread hregister site
  exact ⟨answer, account, registered, hanswered, (hsends.tells hreads).status, rfl⟩

theorem exists_enrolment
    {site : Http.Site} (hreads : site.reads registration = true) {ids : Nat → String}
    (hids : Function.Injective ids) (begin moment : Moment) :
    let registered := (Doing.request site registration).after service (State.start begin ids) moment
    ∃ userId,
      let verified := (Doing.verification userId).after service registered moment
      Deployed service ids verified ∧
        Enrolment userId fields.username fields.email fields.password true verified.database := by
  intro registered
  obtain ⟨answer, account, later, hanswered, -, hregister⟩ :=
    exists_created hsubmits hread hpolicy hhash hreads begin ids moment
  obtain rfl : registered = later := congrArg Prod.snd hanswered
  obtain ⟨-, -, hundisturbed, henrolment⟩ := enrolment_of_register rfl hregister
  have hvisited : Visited service (State.start begin ids) registered :=
    .doing .start moment (.request site registration) trivial
  have hdeployed := (Deployed.start service begin ids).proceeds hids hvisited
  have hspared : Onward service account.id registered
      ((Doing.verification account.id).after service registered moment) :=
    .doing .start moment (.verification account.id) (by simp [Doing.call?])
  have hverified := hdeployed.proceeds hids hspared
  exact ⟨account.id, hverified, (henrolment.onward hspared hundisturbed).of_isVerified
    hverified.named (henrolment.isVerified_after hundisturbed moment)⟩

end FirstRegistration

end AccountSessions
