import AccountSessions.Proofs.Enrolments

/-!
# A small deployment

A service that takes any short password, and two users who have registered with it and
have been verified before anybody logs in.  Statements about runs are tried on what these
two do next.
-/

namespace AccountSessions

/-! ## The service -/

/-- A service whose tokens live for a quarter of an hour and for a week and that takes any
password of at most 72 bytes. -/
def Service.lenient : Service where
  issuer := ⟨"keep it", .ofSeconds 900, .ofSeconds 604800⟩
  hasher := ⟨4, "unused"⟩
  policy := ⟨1, 72, false, false, false, false⟩
  publisher := .absent

theorem Service.lenient_plain : Token.isPlainSecret lenient.issuer.secret = true := by
  have hkeep : Token.isPlainSecret "keep it" = true := by decide +kernel
  exact hkeep

theorem Service.lenient_accepts : lenient.policy.check "p" = none := rfl

theorem Service.lenient_hash (salt : String) :
    ∃ hash, Password.hash lenient.hasher.rounds salt "p" = .ok hash :=
  Password.exists_hash (by decide) (by decide) (by decide) salt

theorem Service.lenient_ttl (kind : Token.Kind) :
    0 < (lenient.issuer.ttl kind).micros ∧ (lenient.issuer.ttl kind).micros ≤ 604800000000 := by
  cases kind with
  | access => decide
  | refresh => decide

theorem Service.lenient_issues
    {now : Moment} (hera : now.InEra) (kind : Token.Kind) (tokenId : String) (userId : Int)
    (email : String) :
    ∃ token, lenient.issuer.issue kind now tokenId userId (some email) = .ok token := by
  obtain ⟨hlifetime, hmost⟩ := lenient_ttl kind
  have hbefore := hera.before
  rw [Moment.yearStart_2501] at hbefore
  have hlast : now.micros + (lenient.issuer.ttl kind).micros < Moment.yearStart 9999 := by
    rw [Moment.yearStart_9999]
    omega
  exact Token.Issuer.issues_until lenient_plain hera hlifetime hlast tokenId userId email

/-- Ids that grow with their numbers. -/
def Token.unaryId (number : Nat) : String :=
  String.ofList (List.replicate (number + 1) 'x')

theorem Token.unaryId_injective : Function.Injective unaryId := by
  intro number other hsame
  have hlength := congrArg String.length hsame
  simpa [unaryId] using hlength

theorem Token.unaryId_ne_empty (number : Nat) : unaryId number ≠ "" := by
  simp [unaryId]

/-! ## Registering and being verified -/

theorem Database.markVerified_append
    (accounts : List Account) (row : Account) (records : List SessionRecord)
    (hid : row.id = nextId (accounts.map (·.id))) (now : Moment) :
    markVerified ⟨accounts ++ [row], records⟩ row.id now =
      ⟨accounts ++ [{ row with emailVerified := true, updatedAt := now }], records⟩ := by
  have hold : ∀ account ∈ accounts, account.id ≠ row.id := by
    intro account hmem
    rw [hid]
    exact (Database.lt_nextId (List.mem_map_of_mem hmem)).ne
  have hkept : accounts.map (fun account => if account.id = row.id then
      { account with emailVerified := true, updatedAt := now } else account) = accounts := by
    rw [List.map_congr_left fun account hmem => if_neg (hold account hmem), List.map_id']
  simp [markVerified, changeAccount, hkept]

/-- Somebody with names and a password that are free registers and is verified at once. -/
theorem exists_row_of_verified
    (service : Service) {state : State} (hundisturbed : state.disturbances = [])
    {accounts : List Account} {records : List SessionRecord}
    (hdatabase : state.database = ⟨accounts, records⟩) (userId : Int)
    (hid : Database.nextId (accounts.map (·.id)) = userId)
    (hroom : Store.fitsColumn userId = true) (username email name : String)
    (hfree : Database.isTaken ⟨accounts, records⟩ username email = false) {password : String}
    (hpolicy : service.policy.check password = none)
    (hhash : ∀ salt, ∃ hash, Password.hash service.hasher.rounds salt password = .ok hash)
    (moment : Moment) :
    let registered := (step service state moment (.register username email password name)).2
    ∃ hash, Password.verify password hash = true ∧
      (step service registered moment (.verifyEmail userId)).2.database =
        ⟨accounts ++ [⟨userId, username, email, hash, name, true, true, none, moment, moment⟩],
          records⟩ := by
  subst hid
  intro registered
  let clocked : State := { state with now := moment }
  have hcalm : clocked.disturbances = [] := hundisturbed
  have hclocked : clocked.database = ⟨accounts, records⟩ := hdatabase
  have hunclashing : clocked.database.isTaken username email = false := by rw [hclocked, hfree]
  have hopen : Store.isFull clocked.database = false := by
    rw [hclocked, Store.isFull, hroom]
    rfl
  obtain ⟨account, haccepted⟩ :=
    (Service.ends_register_accepted hcalm service hpolicy hhash hunclashing hopen name).apply.1
  have hregister : exec (service.register username email password name) clocked =
      (.ok account, registered) := by
    refine Prod.ext haccepted ?_
    exact (congrArg Prod.snd (exec_map Answer.account _ clocked)).symm
  obtain ⟨-, -, hlaterCalm, henrolment⟩ := enrolment_of_register hcalm hregister
  obtain ⟨hash, haccepts, -, rfl, hrows⟩ := exists_row_of_register hcalm hregister
  rw [hclocked] at henrolment hrows
  have hverified := henrolment.database_verified hlaterCalm service moment
  rw [hrows] at hverified
  exact ⟨hash, haccepts, hverified.trans
    (Database.markVerified_append accounts _ records rfl moment)⟩

/-- Whoever registers on an empty database and is verified may log in. -/
theorem exists_run_admits
    (service : Service) {built : State} (hundisturbed : built.disturbances = [])
    (hempty : built.database = .empty) (username email : String) {password : String}
    (hpolicy : service.policy.check password = none)
    (hhash : ∀ salt, ∃ hash, Password.hash service.hasher.rounds salt password = .ok hash)
    (now : Moment) :
    ∃ history state account, Run service built history state ∧
      Admits state.database username password account := by
  obtain ⟨hash, haccepts, hrows⟩ := exists_row_of_verified service hundisturbed hempty 1 rfl
    (by decide) username email username rfl hpolicy hhash now
  refine ⟨_, _, ⟨1, username, email, hash, username, true, true, none, now, now⟩,
    .snoc (.snoc .nil now (.register username email password username)) now (.verifyEmail 1), ?_⟩
  rw [hrows]
  have hfits : Store.fitsColumn 1 = true := by decide
  exact ⟨by simp [Database.accountOf?], hfits, rfl, rfl, haccepts⟩

/-! ## Calls that have their way -/

section Steps

variable (service : Service) {state : State} (hundisturbed : state.disturbances = [])
  (moment : Moment)

include hundisturbed

theorem step_logout
    {userId : Int} {token : String} {claims : Token.Claims}
    (hvalid : service.issuer.validate moment .refresh token = .ok claims)
    (howner : claims.userId = userId) (hopen : state.database.countOpen (·.token == token) ≠ 0) :
    let result := step service state moment (.logout userId token)
    result.1 = .ok .done ∧
      result.2.database = state.database.revokeWhere (·.token == token) moment := by
  have hcalm : ({ state with now := moment } : State).disturbances = [] := hundisturbed
  have hends : Ends ((Call.logout userId token).perform service) { state with now := moment }
      fun outcome database => outcome = .ok .done ∧
        database = state.database.revokeWhere (·.token == token) moment := by
    apply (Service.ends_logout_outcome hcalm service userId token).map
    intro outcome database houtcome
    cases houtcome with
    | rejected hinvalid => exact nomatch hinvalid.symm.trans hvalid
    | foreign hfound hother =>
        obtain rfl := Except.ok.inj (hvalid.symm.trans hfound)
        exact absurd howner hother
    | closed _ _ hclosed => exact absurd hclosed hopen
    | revoked => exact ⟨rfl, rfl⟩
  exact hends.apply.1

theorem step_logoutAll {userId : Int} (hfits : Store.fitsColumn userId = true) :
    let result := step service state moment (.logoutAll userId)
    result.1 = .ok (.count (state.database.countOpen (·.userId == userId))) ∧
      result.2.database = state.database.revokeWhere (·.userId == userId) moment := by
  have hcalm : ({ state with now := moment } : State).disturbances = [] := hundisturbed
  have hends : Ends ((Call.logoutAll userId).perform service) { state with now := moment }
      fun outcome database =>
        outcome = .ok (.count (state.database.countOpen (·.userId == userId))) ∧
        database = state.database.revokeWhere (·.userId == userId) moment := by
    apply (Service.ends_logoutAll hcalm service userId).map
    rintro outcome database (⟨hoverflows, -⟩ | ⟨rfl, rfl⟩)
    · exact absurd hfits hoverflows
    · exact ⟨rfl, rfl⟩
  exact hends.apply.1

theorem step_deactivate
    {userId : Int} (hfits : Store.fitsColumn userId = true)
    (hhas : state.database.hasAccount userId = true) :
    let result := step service state moment (.deactivate userId)
    result.1 = .ok (.count (state.database.countOpen (·.userId == userId))) ∧
      result.2.database = (state.database.setActive userId false moment).revokeWhere
        (·.userId == userId) moment := by
  have hcalm : ({ state with now := moment } : State).disturbances = [] := hundisturbed
  have hends : Ends ((Call.deactivate userId).perform service) { state with now := moment }
      fun outcome database =>
        outcome = .ok (.count (state.database.countOpen (·.userId == userId))) ∧
        database = (state.database.setActive userId false moment).revokeWhere
          (·.userId == userId) moment := by
    apply (Service.ends_deactivate hcalm userId).ends.map
    rintro outcome database (⟨hpowerless, -⟩ | ⟨rfl, rfl⟩)
    · exact nomatch hhas.symm.trans (hpowerless hfits)
    · exact ⟨rfl, rfl⟩
  exact hends.apply.1

theorem step_purge :
    let result := step service state moment .purge
    result.1 = .ok (.count (state.database.countSpent moment)) ∧
      result.2.database = state.database.sweep moment := by
  have hcalm : ({ state with now := moment } : State).disturbances = [] := hundisturbed
  have hends : Ends (Call.purge.perform service) { state with now := moment }
      fun outcome database => outcome = .ok (.count (state.database.countSpent moment)) ∧
        database = state.database.sweep moment := by
    apply (Service.ends_purge hcalm).ends.map
    rintro outcome database ⟨rfl, rfl⟩
    exact ⟨rfl, rfl⟩
  exact hends.apply.1

end Steps

/-! ## Ann and bob -/

/-- A user registers with the password of the small deployment and is verified. -/
theorem Deployed.enrolls
    {state : State} (hdeployed : Deployed .lenient Token.unaryId state) {accounts : List Account}
    (hdatabase : state.database = ⟨accounts, []⟩) (userId : Int)
    (hid : Database.nextId (accounts.map (·.id)) = userId)
    (hroom : Store.fitsColumn userId = true) (username email name : String)
    (hunmixed : '@' ∉ username.toList ∧ '@' ∈ email.toList)
    (hfree : Database.isTaken ⟨accounts, []⟩ username email = false) :
    let registered := (step .lenient state .epoch (.register username email "p" name)).2
    let verified := (step .lenient registered .epoch (.verifyEmail userId)).2
    Deployed .lenient Token.unaryId verified ∧ ∃ hash, Password.verify "p" hash = true ∧
      verified.database =
        ⟨accounts ++ [⟨userId, username, email, hash, name, true, true, none, .epoch, .epoch⟩],
          []⟩ := by
  intro registered verified
  have hregistered : Deployed .lenient Token.unaryId registered := by
    refine hdeployed.call Token.unaryId_injective .epoch ?_
    rintro _ _ _ _ ⟨⟩
    exact hunmixed
  refine ⟨hregistered.call Token.unaryId_injective .epoch nofun, ?_⟩
  exact exists_row_of_verified .lenient hdeployed.twins.undisturbed hdatabase userId hid hroom
    username email name hfree Service.lenient_accepts Service.lenient_hash .epoch

/-- Ann and bob have registered with one password and have been verified, all at one
moment.  Nobody has logged in. -/
structure Acquainted (history : List Entry) (state : State) : Prop where
  run : Run .lenient (.start .epoch Token.unaryId) history state
  moments : history.map (·.moment) = List.replicate 4 .epoch
  calls : history.map (·.call) =
    [.register "ann" "ann@b.org" "p" "Ann", .verifyEmail 1, .register "bob" "bob@b.org" "p" "Bob",
      .verifyEmail 2]
  deployed : Deployed .lenient Token.unaryId state
  rows : ∃ hash other, Password.verify "p" hash = true ∧ Password.verify "p" other = true ∧
    state.database =
      ⟨[⟨1, "ann", "ann@b.org", hash, "Ann", true, true, none, .epoch, .epoch⟩,
        ⟨2, "bob", "bob@b.org", other, "Bob", true, true, none, .epoch, .epoch⟩], []⟩

theorem exists_acquainted : ∃ history state, Acquainted history state := by
  obtain ⟨hann, hash, haccepts, hone⟩ := (Deployed.start .lenient .epoch Token.unaryId).enrolls
    rfl 1 rfl (by decide) "ann" "ann@b.org" "Ann" (by decide) rfl
  obtain ⟨hbob, other, hknows, htwo⟩ := hann.enrolls hone 2 rfl (by decide) "bob" "bob@b.org"
    "Bob" (by decide) (by simp [Database.isTaken, Account.clashes])
  exact ⟨_, _, .snoc (.snoc (.snoc (.snoc .nil .epoch _) .epoch _) .epoch _) .epoch _, rfl, rfl,
    hbob, hash, other, haccepts, hknows, htwo⟩

namespace Acquainted

variable {history : List Entry} {state : State} (hacquainted : Acquainted history state)

include hacquainted

theorem ann : Enrolment 1 "ann" "ann@b.org" "p" true state.database := by
  obtain ⟨hash, other, haccepts, -, hrows⟩ := hacquainted.rows
  refine ⟨by decide, by decide, hash, haccepts, ?_⟩
  rw [hrows]
  exact ⟨_, List.mem_cons_self, rfl, rfl, rfl, rfl, rfl, fun _ => rfl⟩

theorem bob : Enrolment 2 "bob" "bob@b.org" "p" true state.database := by
  obtain ⟨hash, other, -, hknows, hrows⟩ := hacquainted.rows
  refine ⟨by decide, by decide, other, hknows, ?_⟩
  rw [hrows]
  exact ⟨_, List.mem_cons_of_mem _ List.mem_cons_self, rfl, rfl, rfl, rfl, rfl, fun _ => rfl⟩

end Acquainted

/-! ## Their sessions -/

/-- The session is that of the user, and its refresh token is taken. -/
structure Session.Serves (session : Session) (userId : Int) : Prop where
  user : session.account.id = userId
  accepted : ∃ claims, Service.lenient.issuer.validate .epoch .refresh session.refreshToken =
    .ok claims ∧ claims.userId = userId
  refreshOnly : Service.lenient.issuer.Rejects .epoch .access session.refreshToken

theorem Service.Enters.serves
    {state : State} {identifier password email : String} {userId : Int} {session : Session}
    {stop : Moment}
    (henters : Service.lenient.Enters state .epoch identifier password userId email session stop)
    (hdeployed : Deployed .lenient Token.unaryId state) (hpositive : 0 < userId)
    (hfits : Store.fitsColumn userId = true) (hemail : email ≠ "") :
    session.Serves userId := by
  obtain ⟨tokenId, hoffers, hissue⟩ := henters.refreshToken
  have htokenId : tokenId ≠ "" := by
    rcases hoffers with hfixed | ⟨number, rfl⟩
    · exact nomatch hfixed.symm.trans hdeployed.twins.fixed
    · rw [hdeployed.twins.text]
      exact Token.unaryId_ne_empty number
  have hepoch : Moment.epoch.InEra := ⟨by decide, by decide⟩
  have hlast : ∀ expires, Moment.epoch.add? (Service.lenient.issuer.ttl .refresh) = some expires →
      expires.InEra := by
    rintro _ ⟨⟩
    exact ⟨by decide, by decide⟩
  obtain ⟨claims, hvalid, huser, -⟩ := Token.Issuer.validate_at_once Service.lenient_plain hissue
    (fun _ => .of_fits hpositive hfits hemail htokenId) (Service.lenient_ttl .refresh).1 hepoch
    hlast
  obtain ⟨expires, -, hsign⟩ := Token.Issuer.issue_eq_ok.mp hissue
  have hpayload := Token.verifiedPayload_sign Service.lenient_plain
    (Token.Grant.legible_payload _) rfl hsign
  have hother : Token.Kind.access ≠ .refresh := by decide
  exact ⟨henters.user, ⟨claims, hvalid, huser⟩, Token.Issuer.rejects_other_kind hpayload hother .epoch⟩

theorem Service.lenient_enters
    {state : State} (hdeployed : Deployed .lenient Token.unaryId state) {userId : Int}
    {username email : String}
    (henrolment : Enrolment userId username email "p" true state.database) (hemail : email ≠ "") :
    ∃ session, session.Serves userId ∧
      Service.lenient.Enters state .epoch username "p" userId email session
        { micros := 604800000000 } := by
  have hepoch : Moment.epoch.InEra := ⟨by decide, by decide⟩
  obtain ⟨session, stop, henters⟩ := hdeployed.enters Token.unaryId_injective henrolment (.inl rfl)
    fun kind tokenId => lenient_issues hepoch kind tokenId userId email
  obtain rfl : _ = stop := Option.some.inj henters.expires
  exact ⟨session, henters.serves hdeployed henrolment.positive henrolment.fits hemail, henters⟩

/-- A check of the token of a session that is live tells its user. -/
theorem Session.Serves.checks
    {session : Session} {userId : Int} (hserves : session.Serves userId) {state : State}
    (hundisturbed : state.disturbances = [])
    (hlive : (state.database.liveRecord? session.refreshToken .epoch).isSome = true) :
    ∃ claims, claims.userId = userId ∧
      (step .lenient state .epoch (.validateToken session.refreshToken)).1 =
        .ok (.claims claims) := by
  obtain ⟨claims, hvalid, huser⟩ := hserves.accepted
  have hcalm : ({ state with now := .epoch } : State).disturbances = [] := hundisturbed
  obtain ⟨later, hexec, -⟩ :=
    Service.yields_validateToken hcalm hserves.refreshOnly hvalid hlive
  refine ⟨claims, huser, ?_⟩
  rw [step, Call.perform, exec_map, hexec]
  rfl

/-- Ann has logged in and then bob, at the moment at which they registered. -/
structure Entered (history : List Entry) (state : State) (ann bob : Session) : Prop where
  run : Run .lenient (.start .epoch Token.unaryId) history state
  moments : history.map (·.moment) = List.replicate 6 .epoch
  calls : history.map (·.call) =
    [.register "ann" "ann@b.org" "p" "Ann", .verifyEmail 1, .register "bob" "bob@b.org" "p" "Bob",
      .verifyEmail 2, .login "ann" "p", .login "bob" "p"]
  entries : ∃ before, history = before ++
    [⟨.epoch, .login "ann" "p", .ok (.session ann)⟩, ⟨.epoch, .login "bob" "p", .ok (.session bob)⟩]
  deployed : Deployed .lenient Token.unaryId state
  annIssued : ∃ tokenId,
    Service.lenient.issuer.issue .refresh .epoch tokenId 1 (some "ann@b.org") =
      .ok ann.refreshToken
  annServed : ann.Serves 1
  bobServed : bob.Serves 2
  rows : ∃ hash other, Password.verify "p" hash = true ∧ Password.verify "p" other = true ∧
    state.database =
      ⟨[⟨1, "ann", "ann@b.org", hash, "Ann", true, true, some .epoch, .epoch, .epoch⟩,
        ⟨2, "bob", "bob@b.org", other, "Bob", true, true, some .epoch, .epoch, .epoch⟩],
      [⟨1, 1, ann.refreshToken, { micros := 604800000000 }, .epoch, none⟩,
        ⟨2, 2, bob.refreshToken, { micros := 604800000000 }, .epoch, none⟩]⟩

theorem exists_entered : ∃ history state ann bob, Entered history state ann bob := by
  obtain ⟨history, state, hacquainted⟩ := exists_acquainted
  have hdeployed := hacquainted.deployed
  have hcalm := hdeployed.twins.undisturbed
  obtain ⟨ann, hann, hannEnters⟩ := Service.lenient_enters hdeployed hacquainted.ann (by decide)
  let login : Call := .login "ann" "p"
  have hlater : Deployed .lenient Token.unaryId (step .lenient state .epoch login).2 :=
    hdeployed.call Token.unaryId_injective .epoch nofun
  have hspared : login ≠ .deactivate 2 := nofun
  obtain ⟨bob, hbob, hbobEnters⟩ := Service.lenient_enters hlater
    (hacquainted.bob.call hcalm .lenient .epoch hspared) (by decide)
  have hrun := (hacquainted.run.snoc .epoch (.login "ann" "p")).snoc .epoch (.login "bob" "p")
  rw [hannEnters.outcome, hbobEnters.outcome] at hrun
  obtain ⟨hash, other, haccepts, hknows, hrows⟩ := hacquainted.rows
  obtain ⟨tokenId, -, hissue⟩ := hannEnters.refreshToken
  refine ⟨_, _, ann, bob, hrun, ?_, ?_, ⟨history, by simp⟩,
    hlater.call Token.unaryId_injective .epoch nofun, ⟨tokenId, hissue⟩, hann, hbob, hash, other,
    haccepts, hknows, ?_⟩
  · simp [hacquainted.moments]
  · simp [hacquainted.calls]
  · rw [hbobEnters.database, hannEnters.database, hrows]
    simp [Database.stampLogin, Database.changeAccount, Database.nextId]

namespace Entered

variable {history : List Entry} {state : State} {ann bob : Session}
  (hentered : Entered history state ann bob)

include hentered

theorem annEnrolled : Enrolment 1 "ann" "ann@b.org" "p" true state.database := by
  obtain ⟨hash, other, haccepts, -, hrows⟩ := hentered.rows
  refine ⟨by decide, by decide, hash, haccepts, ?_⟩
  rw [hrows]
  exact ⟨_, List.mem_cons_self, rfl, rfl, rfl, rfl, rfl, fun _ => rfl⟩

/-- Ann's token renews her session. -/
theorem refreshes :
    ∃ renewed,
      (exec (Service.lenient.refresh ann.refreshToken) { state with now := .epoch }).1 =
        .ok renewed ∧ renewed.account.id = 1 := by
  obtain ⟨hash, other, -, -, hrows⟩ := hentered.rows
  obtain ⟨claims, hvalid, huser⟩ := hentered.annServed.accepted
  let clocked : State := { state with now := .epoch }
  have hcalm : clocked.disturbances = [] := hentered.deployed.twins.undisturbed
  have hepoch : Moment.epoch.InEra := ⟨by decide, by decide⟩
  obtain ⟨account, haccount, hid⟩ :
      ∃ account, clocked.database.account? claims.userId = some account ∧ account.id = 1 := by
    rw [huser, show clocked.database = _ from hrows]
    exact ⟨_, rfl, rfl⟩
  have hlive : (clocked.database.liveRecord? ann.refreshToken clocked.now).isSome = true := by
    have hweek : (0 : Int) < 604800000000 := by decide
    rw [show clocked.database = _ from hrows]
    exact Database.liveRecord?_isSome.mpr ⟨_, List.mem_cons_self, rfl, rfl, hweek⟩
  have hfits : Store.fitsColumn claims.userId = true := by
    rw [huser]
    decide
  obtain ⟨renewed, ⟨later, hexec, -⟩, hrenewed⟩ :=
    Service.yields_refresh hcalm hvalid hfits haccount hlive fun tokenId =>
      Service.lenient_issues hepoch .access tokenId account.id account.email
  exact ⟨renewed, congrArg Prod.fst hexec, hrenewed.trans hid⟩

end Entered

end AccountSessions
