import AccountSessions.Console.Run
import AccountSessions.Proofs.Calls
import AccountSessions.Service.Assembly

/-!
# Commands of the console

A command line does to the database what one call of the service does, whichever service
it works with: it may use a given one or build one from settings, which touches no table.
-/

namespace AccountSessions

open Operation

/-- One call of the service leads from the one database to the other. -/
def Evolves (service : Service) (ids : TokenIds) (now : Moment) (db later : Database) : Prop :=
  ∃ call outcome, Effect service ids now db call outcome later

theorem Evolves.refl (service : Service) (ids : TokenIds) (now : Moment) (db : Database) :
    Evolves service ids now db db :=
  ⟨.listSessions 0, .ok .done, .read trivial⟩

/-! ## Services built for a command -/

variable {state : State}

theorem rests_ofBreakdown {α : Type} (outcome : Except Breakdown α) (state : State) :
    Rests (ofBreakdown outcome) state fun _ database => database = state.database :=
  (yields_ofBreakdown outcome state).endsBy rfl

theorem rests_buildService (settings : Settings) (state : State) :
    Rests settings.buildService state fun _ database => database = state.database := by
  unfold Settings.buildService Service.build
  refine .pass (.refl state) (rests_ofBreakdown _ state) (fun _ => rfl) ?_
  intro accessTtl first hfirst
  refine .pass hfirst (rests_ofBreakdown _ first) (fun _ => rfl) ?_
  intro refreshTtl second hsecond
  refine .pass hsecond (rests_ofBreakdown _ second) (fun _ => rfl) ?_
  intro issuer third hthird
  refine .quiet hthird (yields_drawSalt third) ?_
  intro salted hsalted
  refine .pass hsalted (rests_ofBreakdown _ salted) (fun _ => rfl) ?_
  intro hasher last hlast
  exact .last hlast (.pure _ last) rfl

/-! ## Commands -/

namespace Console

variable (hundisturbed : state.disturbances = []) (service user : Service)
  (ids : TokenIds)

include hundisturbed

/-- A verification that fails is reported, unless it breaks down. -/
theorem ends_verifyEmail_reported
    {report : Account → Outcome} {handler : Failure → Operation Outcome} (id : Int)
    (hhandler : ∀ failure later, ∃ outcome, Yields (handler failure) later outcome later.database) :
    Ends (tryCatch (report <$> Service.verifyEmail id) handler) state fun _ database =>
      Evolves service ids state.now state.database database := by
  have hverified : Rests (report <$> Service.verifyEmail id) state fun outcome database =>
      (∃ failure, outcome = .error failure) ∧ database = state.database ∨
        (∃ account, outcome = .ok (report account)) ∧
          Evolves service ids state.now state.database database := by
    apply (Service.ends_verifyEmail hundisturbed id).map
    rintro outcome database (⟨⟨failure, rfl⟩, rfl⟩ | ⟨account, hstored, rfl, rfl⟩)
    · exact .inl ⟨⟨failure, rfl⟩, rfl⟩
    · exact .inr ⟨⟨_, rfl⟩, _, _, .verified hstored⟩
  obtain ⟨outcome, database, hyields, ⟨⟨failure, rfl⟩, rfl⟩ | ⟨⟨account, rfl⟩, hevolves⟩⟩ :=
    hverified.yields
  · refine .tryCatch_error (.refl state) hyields ?_
    intro failed hfailed
    obtain ⟨outcome, hhandled⟩ := hhandler failure failed
    exact .last hfailed hhandled (.refl service ids _ _)
  · exact hyields.tryCatch.endsBy hevolves

theorem ends_runForUser (identifier : String) (id : Int) (command : UserCommand) :
    Ends (runForUser user identifier id command) state fun _ database =>
      Evolves service ids state.now state.database database := by
  cases command with
  | verifyEmail =>
      unfold runForUser
      rw [bind_pure_comp]
      refine ends_verifyEmail_reported hundisturbed service ids id ?_
      intro failure later
      split
      next => exact ⟨_, .pure _ later⟩
      next => exact ⟨_, .throw _ later⟩
  | revokeSessions =>
      unfold runForUser
      rw [bind_pure_comp]
      apply (Service.ends_logoutAll hundisturbed user id).map
      rintro outcome database (⟨-, -, rfl⟩ | ⟨-, rfl⟩)
      · exact .refl service ids _ _
      · exact ⟨_, _, .loggedOutAll⟩
  | listSessions =>
      unfold runForUser
      refine .pass (.refl state) (Service.ends_listSessions hundisturbed id)
        (fun _ => .refl service ids _ _) ?_
      intro records listed hlisted
      split
      next => exact .last hlisted (.pure _ listed) (.refl service ids _ _)
      next =>
        refine .stay (exec_now listed) ?_
        exact .last hlisted (.pure _ listed) (.refl service ids _ _)
  | deactivateUser =>
      unfold runForUser
      rw [bind_pure_comp]
      apply (Service.ends_deactivate hundisturbed id).ends.map
      rintro outcome database (⟨-, -, rfl⟩ | ⟨-, rfl⟩)
      · exact .refl service ids _ _
      · exact ⟨_, _, .deactivated⟩
  | activateUser =>
      unfold runForUser
      rw [bind_pure_comp]
      apply (Service.ends_activate hundisturbed id).ends.map
      rintro outcome database (⟨-, rfl⟩ | ⟨hhas, -, rfl⟩)
      · exact .refl service ids _ _
      · exact ⟨_, _, .activated hhas⟩

theorem ends_runCommand (command : Command) :
    Ends (runCommand user command) state fun _ database =>
      Evolves service ids state.now state.database database := by
  cases command with
  | purgeSessions =>
      unfold runCommand
      rw [bind_pure_comp]
      apply (Service.ends_purge hundisturbed).ends.map
      rintro outcome database ⟨-, rfl⟩
      exact ⟨_, _, .purged⟩
  | forUser command identifier =>
      unfold runCommand
      refine .quiet (.refl state) (Store.yields_accountByIdentifier hundisturbed identifier) ?_
      intro found hfound
      cases state.database.accountOf? identifier with
      | none => exact .last hfound (.pure _ found) (.refl service ids _ _)
      | some account =>
          have hstore := hfound.disturbances.trans hundisturbed
          have hends := ends_runForUser hstore service user ids identifier account.id command
          rw [hfound.database, hfound.now] at hends
          exact hends

/-- A command line does what one call does, if anything, whatever service it uses. -/
theorem ends_run
    {source : Operation Service}
    (hsource : Rests source state fun _ database => database = state.database)
    (arguments : List String) :
    Ends (run source arguments) state fun _ database =>
      Evolves service ids state.now state.database database := by
  unfold run
  cases Request.ofArguments arguments with
  | command command =>
      refine .pass (.refl state) hsource (fun _ => .refl service ids _ _) ?_
      intro user built hbuilt
      have hstore := hbuilt.disturbances.trans hundisturbed
      have hends := ends_runCommand hstore service user ids command
      rw [hbuilt.database, hbuilt.now] at hends
      exact hends
  | nothing => exact .last (.refl state) (.pure _ state) (.refl service ids _ _)
  | help form => exact .last (.refl state) (.pure _ state) (.refl service ids _ _)
  | faulty form fault => exact .last (.refl state) (.pure _ state) (.refl service ids _ _)

end Console

end AccountSessions
