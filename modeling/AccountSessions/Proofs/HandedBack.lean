import AccountSessions.Proofs.LoginDecisions

/-!
# Accounts that are handed back

A registration, a verification and a refresh hand back the row as it is stored when they
return.  A login hands back the row that it has read before its own changes.  It carries
over the moment of the login, but not the moment of the change, although both are written.
-/

namespace AccountSessions

/-! ## Answers with accounts -/

/-- The account that the answer hands back. -/
def Answer.account? : Answer → Option Account
  | .account shown => some shown
  | .session opened => some opened.account
  | _ => none

/-- The row is stored, and the account is the row without its hash. -/
def Account.Mirrors (handed stored : Account) (db : Database) : Prop :=
  db.account? handed.id = some stored ∧ handed = stored.withoutHash

/-- An account in the outcome is a stored row without its hash. -/
def Faithful (outcome : Except Failure Answer) (db : Database) : Prop :=
  ∀ answer handed, outcome = .ok answer → answer.account? = some handed →
    ∃ stored, handed.Mirrors stored db

theorem Database.exists_mirrored
    {db : Database} {id : Int} {stored : Account} (hstored : db.account? id = some stored) :
    ∃ row, stored.withoutHash.Mirrors row db := by
  obtain ⟨-, rfl⟩ := hasAccount_of_account? hstored
  exact ⟨stored, hstored, rfl⟩

/-! ## Calls other than logins -/

theorem Effect.faithful
    {service : Service} {ids : TokenIds} {now : Moment} {db later : Database} {call : Call}
    {outcome : Except Failure Answer} (heffect : Effect service ids now db call outcome later)
    (hcall : ∀ identifier password, call ≠ .login identifier password) (hreads : ¬ call.Reads) :
    Faithful outcome later := by
  rintro answer handed rfl hhanded
  cases heffect with
  | registered _ hstored | verified hstored =>
      obtain rfl := Option.some.inj hhanded
      exact Database.exists_mirrored hstored
  | loggedIn => exact absurd rfl (hcall _ _)
  | loggedOut | loggedOutAll | deactivated | activated | purged => cases hhanded
  | read hread => exact absurd hread hreads

theorem faithful_of_map
    {α : Type} {change : α → Answer} (hnone : ∀ value, (change value).account? = none)
    (action : Operation α) (state : State) (db : Database) :
    Faithful (exec (change <$> action) state).1 db := by
  intro answer handed hanswer hhanded
  rw [exec_map] at hanswer
  cases houtcome : (exec action state).1 with
  | error failure =>
      rw [houtcome] at hanswer
      cases hanswer
  | ok value =>
      rw [houtcome] at hanswer
      obtain rfl := Except.ok.inj hanswer
      exact nomatch (hnone value).symm.trans hhanded

section Steps

variable {state : State} (hundisturbed : state.disturbances = []) (service : Service)

include hundisturbed

theorem refresh_faithful (token : String) :
    Rests ((Call.refresh token).perform service) state Faithful := by
  apply (Service.ends_renewal hundisturbed service token).map
  rintro outcome database ⟨rfl, hrenewed⟩ answer handed hanswer hhanded
  cases outcome with
  | error failure => cases hanswer
  | ok session =>
      obtain rfl := Except.ok.inj hanswer
      obtain rfl := Option.some.inj hhanded
      obtain ⟨account, claims, _, _, -, haccount, -, -, rfl⟩ := hrenewed session rfl
      exact Database.exists_mirrored haccount

theorem step_faithful
    (moment : Moment) {call : Call}
    (hcall : ∀ identifier password, call ≠ .login identifier password) :
    Faithful (step service state moment call).1 (step service state moment call).2.database := by
  cases call with
  | login identifier password => exact absurd rfl (hcall identifier password)
  | refresh token =>
      have hcalm : ({ state with now := moment } : State).disturbances = [] := hundisturbed
      exact (refresh_faithful hcalm service token).apply.1
  | validateToken | listSessions => exact faithful_of_map (fun _ => rfl) _ _ _
  | register | verifyEmail | logout | logoutAll | deactivate | activate | purge =>
      exact (step_effect hundisturbed service moment _).1.faithful hcall id

/-- A login hands back the row that it leaves behind, but for the moment of its change. -/
theorem login_hands_back
    (hintegral : state.database.Integral) (moment : Moment) {identifier password : String}
    {answer : Answer} {handed : Account}
    (hanswer : (step service state moment (.login identifier password)).1 = .ok answer)
    (hhanded : answer.account? = some handed) :
    ∃ before stored, state.database.account? handed.id = some before ∧
      (step service state moment (.login identifier password)).2.database.account? handed.id =
        some stored ∧
      stored.updatedAt = moment ∧
      handed = { stored.withoutHash with updatedAt := before.updatedAt } := by
  obtain ⟨heffect, -⟩ := step_effect hundisturbed service moment (.login identifier password)
  have hlater := heffect.integral hintegral
  generalize (step service state moment _).2.database = later at heffect hlater ⊢
  rw [hanswer] at heffect
  cases heffect with
  | read hreads => cases hreads
  | @loggedIn _ _ _ _ _ account _ _ _ hfound _ _ _ _ hadd =>
      obtain rfl := Option.some.inj hhanded
      obtain ⟨-, rfl⟩ := Database.addRecord?_eq_some hadd
      have hmem := Database.mem_of_accountOf? hfound
      let stamped : Account := { account with lastLoginAt := some moment, updatedAt := moment }
      refine ⟨account, stamped, find?_eq_of_nodup hintegral.accountIds hmem, ?_, rfl, rfl⟩
      have hstamped := List.mem_map_of_mem (f := fun row : Account =>
        if row.id = account.id then
          { row with lastLoginAt := some moment, updatedAt := moment }
        else row) hmem
      rw [if_pos rfl] at hstamped
      exact find?_eq_of_nodup hlater.accountIds hstamped

end Steps

/-! ## Every reached state -/

/-- In every state that deeds lead to, whatever account a call hands back is the row that
is stored when the call returns, without its hash.  Only a login may differ from its row,
in the moment of the last change alone, and it does just if the row was last changed at
another moment before. -/
theorem handed_back_iff
    {service : Service} {begin : Moment} {ids : Nat → String} {state : State}
    (hreached : Reached service (State.start begin ids) state) {moment : Moment} {call : Call}
    {answer : Answer} (hanswer : (step service state moment call).1 = .ok answer)
    {handed : Account} (hhanded : answer.account? = some handed) :
    ∃ stored, (step service state moment call).2.database.account? handed.id = some stored ∧
      ((∀ identifier password, call ≠ .login identifier password) →
        handed = stored.withoutHash) ∧
      ∀ identifier password, call = .login identifier password →
        ∃ before, state.database.account? handed.id = some before ∧
          stored.updatedAt = moment ∧
          handed = { stored.withoutHash with updatedAt := before.updatedAt } ∧
          (handed = stored.withoutHash ↔ before.updatedAt = moment) := by
  have hundisturbed : state.disturbances = [] := hreached.undisturbed rfl
  by_cases hcall : ∀ identifier password, call ≠ .login identifier password
  · obtain ⟨stored, hstored, hmirrors⟩ :=
      step_faithful hundisturbed service moment hcall answer handed hanswer hhanded
    exact ⟨stored, hstored, fun _ => hmirrors, fun _ _ hlogin => absurd hlogin (hcall _ _)⟩
  · push Not at hcall
    obtain ⟨identifier, password, rfl⟩ := hcall
    obtain ⟨before, stored, hbefore, hstored, hstamped, hhands⟩ :=
      login_hands_back hundisturbed service (hreached.integral rfl rfl) moment hanswer hhanded
    refine ⟨stored, hstored, fun hother => absurd rfl (hother identifier password), ?_⟩
    rintro _ _ -
    refine ⟨before, hbefore, hstamped, hhands, ?_⟩
    constructor
    · intro hsame
      rw [hhands] at hsame
      exact (congrArg Account.updatedAt hsame).trans hstamped
    · intro hsame
      rw [hhands, hsame, ← hstamped]
      rfl

/-- Ann was last changed at another moment than that of her login, and the login hands back
the earlier moment. -/
theorem handed_back_iff_for_ann :
    ∃ (state : State) (moment : Moment) (session : Session) (stored : Account),
      Reached .lenient (State.start .epoch Token.unaryId) state ∧
      (step .lenient state moment (.login "ann" "p")).1 = .ok (.session session) ∧
      (step .lenient state moment (.login "ann" "p")).2.database.account? session.account.id =
        some stored ∧
      session.account ≠ stored.withoutHash := by
  obtain ⟨history, state, account, hrun, hadmits⟩ :=
    exists_run_admits .lenient (show (State.start .epoch Token.unaryId).disturbances = [] from rfl)
      rfl "ann" "a@b.org" Service.lenient_accepts Service.lenient_hash .epoch
  obtain ⟨moment, hother, hera⟩ : ∃ moment, account.updatedAt ≠ moment ∧ moment.InEra := by
    by_cases hepoch : account.updatedAt = .epoch
    · exact ⟨{ micros := 1000000 }, by rw [hepoch]; decide, by decide, by decide⟩
    · exact ⟨.epoch, hepoch, by decide, by decide⟩
  obtain ⟨hopening, session, hsession⟩ :=
    Service.opens_of_admits ((hrun.reached.twins Token.unaryId_injective).clocked moment)
      Token.unaryId_injective hadmits fun kind tokenId =>
      Service.lenient_issues hera kind tokenId account.id account.email
  have hid : session.account.id = account.id := by
    rw [hopening.account_of_ok hsession]
    rfl
  have hanswer : (step .lenient state moment (.login "ann" "p")).1 = .ok (.session session) := by
    unfold step Call.perform
    rw [exec_map, hsession]
    rfl
  obtain ⟨stored, hstored, -, hlogin⟩ := handed_back_iff hrun.reached hanswer rfl
  obtain ⟨before, hbefore, -, -, hsame⟩ := hlogin "ann" "p" rfl
  refine ⟨state, moment, session, stored, hrun.reached, hanswer, hstored, ?_⟩
  rw [Ne, hsame]
  have hfound : state.database.account? account.id = some account :=
    find?_eq_of_nodup (hrun.reached.integral rfl rfl).accountIds
      (Database.mem_of_accountOf? hadmits.found)
  rw [hid, hfound] at hbefore
  obtain rfl := Option.some.inj hbefore
  exact hother

end AccountSessions
