import AccountSessions.Proofs.RecordTokens
import AccountSessions.Proofs.Requests
import AccountSessions.Proofs.SmallDeployment

/-!
# Users do not touch each other

A logout compares its caller with the subject in the token and then revokes by the token
alone.  That no other user is affected rests on the records: the token of each was
signed for the user to whom the record belongs.
-/

namespace AccountSessions

/-! ## Calls for a user -/

inductive Call.DoneFor (db : Database) (userId : Int) : Call → Prop where
  | login {identifier password : String} {account : Account}
      (hfound : db.accountOf? identifier = some account) (hid : account.id = userId) :
      DoneFor db userId (.login identifier password)
  | read {call : Call} (hreads : call.Reads) : DoneFor db userId call
  | logout (token : String) : DoneFor db userId (.logout userId token)
  | logoutAll : DoneFor db userId (.logoutAll userId)
  | deactivate : DoneFor db userId (.deactivate userId)
  | activate : DoneFor db userId (.activate userId)
  | verifyEmail : DoneFor db userId (.verifyEmail userId)

theorem Backed.revokeToken_spares
    {service : Service} {db : Database} (hbacked : Backed service db) {moment : Moment}
    {token : String} {claims : Token.Claims}
    (hvalid : service.issuer.validate moment .refresh token = .ok claims) {other : Int}
    (hother : claims.userId ≠ other) (now : Moment) :
    db.Spares other (db.revokeWhere (·.token == token) now) := by
  refine Database.revokeWhere_spares ?_ now
  intro record hmem htoken huser
  have htoken : record.token = token := by simpa using htoken
  rw [← htoken] at hvalid
  exact hother ((hbacked.owner hmem hvalid).trans huser)

theorem revokeUser_spares
    {userId other : Int} (hother : userId ≠ other) (db : Database) (now : Moment) :
    db.Spares other (db.revokeWhere (·.userId == userId) now) := by
  refine Database.revokeWhere_spares ?_ now
  intro record _ huser hsame
  have huser : record.userId = userId := by simpa using huser
  exact hother (huser.symm.trans hsame)

theorem Backed.ends_logout
    {state : State} (hundisturbed : state.disturbances = []) {service : Service}
    (hbacked : Backed service state.database) {userId other : Int} (hother : userId ≠ other)
    (token : String) :
    Ends (service.logout userId token) state fun _ database =>
      state.database.Spares other database := by
  apply (Service.ends_logout hundisturbed service userId token).mono
  rintro outcome database (⟨-, rfl⟩ | ⟨claims, hvalid, howner, -, -, rfl⟩)
  · exact .refl other _
  · exact hbacked.revokeToken_spares hvalid (howner ▸ hother) state.now

theorem ends_logoutAll_spares
    {state : State} (hundisturbed : state.disturbances = []) (service : Service)
    {userId other : Int} (hother : userId ≠ other) :
    Ends (service.logoutAll userId) state fun _ database =>
      state.database.Spares other database := by
  apply (Service.ends_logoutAll hundisturbed service userId).mono
  rintro outcome database (⟨-, -, rfl⟩ | ⟨-, rfl⟩)
  · exact .refl other _
  · exact revokeUser_spares hother state.database state.now

theorem Effect.spares
    {service : Service} {ids : TokenIds} {now : Moment} {db later : Database} {call : Call}
    {outcome : Except Failure Answer} (heffect : Effect service ids now db call outcome later)
    (hbacked : Backed service db) {userId other : Int} (hdone : call.DoneFor db userId)
    (hother : userId ≠ other) :
    db.Spares other later := by
  cases heffect with
  | registered _ =>
      cases hdone with
      | read hreads => cases hreads
  | verified =>
      cases hdone with
      | read hreads => cases hreads
      | verifyEmail => exact Database.changeAccount_spares hother db fun _ => rfl
  | loggedIn hfound _ _ _ _ hadd =>
      cases hdone with
      | read hreads => cases hreads
      | login hfound' hid =>
          rw [hfound] at hfound'
          injection hfound' with hsame
          rw [← hsame] at hid
          rw [← hid] at hother
          exact (Database.addRecord?_spares hother hadd).trans
            (Database.changeAccount_spares hother _ fun _ => rfl)
  | loggedOut hvalid howner =>
      cases hdone with
      | read hreads => cases hreads
      | logout token => exact hbacked.revokeToken_spares hvalid (howner ▸ hother) now
  | loggedOutAll =>
      cases hdone with
      | read hreads => cases hreads
      | logoutAll => exact revokeUser_spares hother db now
  | deactivated =>
      cases hdone with
      | read hreads => cases hreads
      | deactivate =>
          have hblocked : db.Spares other (db.setActive userId false now) :=
            Database.changeAccount_spares hother db fun _ => rfl
          exact hblocked.trans (revokeUser_spares hother _ now)
  | activated =>
      cases hdone with
      | read hreads => cases hreads
      | activate => exact Database.changeAccount_spares hother db fun _ => rfl
  | purged =>
      cases hdone with
      | read hreads => cases hreads
  | read _ => exact .refl other db
  | refused _ => exact .refl other db

/-! ## Requests of a user -/

namespace Http

open Handling

variable {state : State} (hundisturbed : state.disturbances = []) {service : Service}
  (hbacked : Backed service state.database) {request : Request} {claims : Token.Claims}
  (hcaller : (exec (identify service request) state).1 = .ok claims) {other : Int}
  (hother : claims.userId ≠ other)

include hundisturbed hcaller

theorem yields_caller : Yields (identify service request) state (.ok claims) state.database := by
  rw [← hcaller]
  exact yields_identify hundisturbed service request

include hother

theorem ends_serve_logoutAll :
    Ends (Route.serve service request .logoutAll) state fun _ database =>
      state.database.Spares other database := by
  unfold Route.serve
  refine .quiet (.refl state) (yields_caller hundisturbed hcaller) ?_
  intro known hknown
  have hlogout := ends_logoutAll_spares (hknown.disturbances.trans hundisturbed) service hother
  rw [hknown.database] at hlogout
  rw [bind_pure_comp]
  exact (ends_ofOperation hlogout fun _ _ h => h).map fun _ _ h => h

include hbacked

theorem ends_serve_logout :
    Ends (Route.serve service request .logout) state fun _ database =>
      state.database.Spares other database := by
  obtain ⟨body, hbody⟩ := exec_readBody request
  unfold Route.serve
  cases body with
  | error rejection =>
      exact .last (.refl state) (.bind_error ⟨state, hbody state, .refl state⟩) (.refl other _)
  | ok body =>
      refine .stay (hbody state) (.quiet (.refl state) (yields_caller hundisturbed hcaller) ?_)
      intro known hknown
      cases SessionTicket.read body with
      | flawed problems =>
          exact .last hknown (.bind_error (.throw _ known)) (.refl other _)
      | sound form =>
          refine .quiet hknown (.pure form known) ?_
          intro checked hchecked
          have hstore := hchecked.disturbances.trans hundisturbed
          have hlogout := Backed.ends_logout hstore (hchecked.database ▸ hbacked) hother
            form.refreshToken
          rw [hchecked.database] at hlogout
          rw [bind_pure_comp]
          exact (ends_ofOperation hlogout fun _ _ h => h).map fun _ _ h => h

/-- Whatever refresh token the body holds, a logout of one or of all sessions by a request
spares the rows of everyone but the caller. -/
theorem respond_spares
    {route : Route} (hroute : route = .logout ∨ route = .logoutAll)
    (hpath : Route.ofPath? (Target.ofText request.target).path = some route)
    (site : Site) :
    state.database.Spares other ((respond service site request).run state).2.database := by
  rw [respond_state]
  by_cases hpreflight : CrossOrigin.isPreflight request = true
  · rw [if_pos hpreflight]
    exact .refl other _
  · rw [if_neg hpreflight]
    have hends : Ends (dispatch service site request) state fun _ database =>
        state.database.Spares other database := by
      unfold dispatch
      rw [hpath]
      by_cases hmethod : request.method = route.method
      · dsimp only
        rw [if_pos hmethod]
        rcases hroute with rfl | rfl
        · exact ends_serve_logout hundisturbed hbacked hcaller hother
        · exact ends_serve_logoutAll hundisturbed hcaller hother
      · dsimp only
        rw [if_neg hmethod]
        exact .last (.refl state) (.throw _ state) (.refl other _)
    exact hends.apply.1

end Http

/-! ## Every reachable state -/

/-- Nothing that is done for one user changes a row of another one. -/
theorem others_untouched
    {service : Service} {begin : Moment} {ids : Nat → String} {history : List Entry}
    {state : State} (hrun : Run service (State.start begin ids) history state)
    {userId other : Int} (hother : userId ≠ other) (moment : Moment) :
    (∀ call : Call, call.DoneFor state.database userId →
      state.database.Spares other (step service state moment call).2.database) ∧
    ∀ (site : Http.Site) (request : Http.Request) (route : Http.Route)
      (claims : Token.Claims),
      route = .logout ∨ route = .logoutAll →
      Http.Route.ofPath? (Http.Target.ofText request.target).path = some route →
      (exec (Http.Handling.identify service request) { state with now := moment }).1 =
        .ok claims →
      claims.userId = userId →
      state.database.Spares other
        ((Http.respond service site request).run { state with now := moment }).2.database := by
  have hundisturbed := (hrun.supplied rfl).undisturbed
  have hbacked := hrun.backed
  constructor
  · intro call hdone
    obtain ⟨heffect, -⟩ := step_effect hundisturbed service moment call
    exact heffect.spares hbacked hdone hother
  · rintro site request route claims hroute hpath hcaller rfl
    have hcalm : ({ state with now := moment } : State).disturbances = [] := hundisturbed
    have hspares := Http.respond_spares hcalm hbacked hcaller hother hroute hpath site
    exact hspares

/-- Ann and bob have logged in, and ann logs out with her token.  Her record is closed
then, and his rows are as they were. -/
theorem others_untouched_by_logout :
    ∃ (history : List Entry) (state : State) (ann bob : Session),
      Run .lenient (.start .epoch Token.unaryId) history state ∧
      state.database.records.map (fun record => (record.userId, record.token, record.revokedAt)) =
        [(1, ann.refreshToken, none), (2, bob.refreshToken, none)] ∧
      let result := step .lenient state .epoch (.logout 1 ann.refreshToken)
      result.1 = .ok .done ∧
      (∃ closed ∈ result.2.database.records,
        closed.userId = 1 ∧ closed.revokedAt = some .epoch) ∧
      state.database.Spares 2 result.2.database := by
  obtain ⟨history, state, ann, bob, hentered⟩ := exists_entered
  obtain ⟨hash, other, -, -, hrows⟩ := hentered.rows
  obtain ⟨claims, hvalid, huser⟩ := hentered.annServed.accepted
  have hcalm := hentered.deployed.twins.undisturbed
  have hopen : state.database.countOpen (·.token == ann.refreshToken) ≠ 0 := by
    rw [hrows]
    simp [Database.countOpen, SessionRecord.isOpen]
  obtain ⟨hdone, hdatabase⟩ := step_logout .lenient hcalm .epoch hvalid huser hopen
  have hspares := (others_untouched hentered.run (by decide : (1 : Int) ≠ 2) .epoch).1 _
    (.logout ann.refreshToken)
  refine ⟨history, state, ann, bob, hentered.run, ?_, hdone, ?_, hspares⟩
  · rw [hrows]
    rfl
  · rw [hdatabase, hrows]
    exact ⟨_, List.mem_cons_self, by simp [SessionRecord.isOpen], by simp [SessionRecord.isOpen]⟩

end AccountSessions
