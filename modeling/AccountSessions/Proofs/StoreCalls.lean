import AccountSessions.Proofs.Execution
import AccountSessions.Service.Store

/-!
# Calls of an undisturbed store

Each call has one outcome and leads to one database.  A call that takes the number of a
user breaks down and changes nothing if the number does not fit its column.
-/

namespace AccountSessions.Store

open Operation

theorem disturbance?_of_undisturbed
    {state : State} (hundisturbed : state.disturbances = []) (call : StoreCall) :
    state.disturbance? call = none := by
  rw [State.disturbance?, hundisturbed]
  rfl

/-- A call that is not disturbed itself does what it says. -/
theorem exec_guarded_of_spared
    {α : Type} {state : State} {call : StoreCall} (hspared : state.disturbance? call = none)
    (no nothing operation : Operation α) :
    exec (guarded call no nothing operation) state = exec operation state := by
  simp [guarded, exec_bind, hspared]

theorem exec_guarded_failing
    {α : Type} {state : State} {call : StoreCall} {failure : Failure}
    (hfails : state.disturbance? call = some (.failing failure))
    (no nothing operation : Operation α) :
    exec (guarded call no nothing operation) state = (.error failure, state) := by
  simp [guarded, exec_bind, hfails]

theorem exec_guarded
    {α : Type} {state : State} (hundisturbed : state.disturbances = []) (call : StoreCall)
    (no nothing operation : Operation α) :
    exec (guarded call no nothing operation) state = exec operation state :=
  exec_guarded_of_spared (disturbance?_of_undisturbed hundisturbed call) no nothing operation

theorem yields_guarded
    {α : Type} {state : State} (hundisturbed : state.disturbances = []) {call : StoreCall}
    {no nothing operation : Operation α} {outcome : Except Failure α} {database : Database}
    (hyields : Yields operation state outcome database) :
    Yields (guarded call no nothing operation) state outcome database := by
  obtain ⟨later, hexec, hleads⟩ := hyields
  exact ⟨later, by rw [exec_guarded hundisturbed, hexec], hleads⟩

theorem yields_requireColumn
    {α : Type} {id : Int} (hfits : fitsColumn id = true) {state : State}
    {rest : Unit → Operation α} {outcome : Except Failure α} {database : Database}
    (hrest : Yields (rest ()) state outcome database) :
    Yields (requireColumn id >>= rest) state outcome database := by
  obtain ⟨later, hexec, hleads⟩ := hrest
  refine ⟨later, ?_, hleads⟩
  rw [exec_bind, requireColumn, if_pos hfits]
  exact hexec

theorem yields_requireColumn_overflow
    {id : Int} (hfits : ¬ fitsColumn id = true) (state : State) :
    Yields (requireColumn id) state (.error (.broken .columnOverflow)) state.database := by
  rw [requireColumn, if_neg hfits]
  exact yields_breakDown .columnOverflow state

theorem yields_store
    {α : Type} {state : State} {database : Database} {next : Operation α}
    {outcome : Except Failure α}
    (hnext : ∀ later : State, Yields next later outcome later.database) :
    Yields (set { state with database } >>= fun _ => next) state outcome database := by
  apply (Yields.setDatabase state database).bind
  intro later hlater
  rw [← hlater.database]
  exact hnext later

variable {state : State} (hundisturbed : state.disturbances = [])

include hundisturbed

theorem yields_overflow
    {α : Type} {id : Int} (hfits : ¬ fitsColumn id = true) {call : StoreCall}
    {no nothing : Operation α} {rest : Unit → Operation α} :
    Yields (guarded call no nothing (requireColumn id >>= rest)) state
      (.error (.broken .columnOverflow)) state.database :=
  yields_guarded hundisturbed (.bind_error (yields_requireColumn_overflow hfits state))

theorem yields_column
    {α : Type} {id : Int} (hfits : fitsColumn id = true) {call : StoreCall}
    {no nothing : Operation α} {rest : Unit → Operation α} {outcome : Except Failure α}
    {database : Database} (hrest : Yields (rest ()) state outcome database) :
    Yields (guarded call no nothing (requireColumn id >>= rest)) state outcome database :=
  yields_guarded hundisturbed (yields_requireColumn hfits hrest)

/-! ## Accounts -/

theorem yields_createAccount {new : NewAccount} {id : Int} {database : Database}
    (hroom : ¬ isFull state.database = true)
    (hadd : state.database.addAccount? new state.now = some (id, database)) :
    Yields (createAccount new) state (.ok id) database := by
  refine yields_guarded hundisturbed (.get_bind ?_)
  rw [if_neg hroom]
  simp only [hadd]
  exact yields_store fun later => yields_note_return _ _ _ id later

theorem yields_createAccount_taken {new : NewAccount}
    (hroom : ¬ isFull state.database = true)
    (hadd : state.database.addAccount? new state.now = none) :
    Yields (createAccount new) state (.error (.usual .duplicateUser)) state.database := by
  refine yields_guarded hundisturbed (.get_bind ?_)
  rw [if_neg hroom]
  simp only [hadd]
  exact yields_note_throw _ _ _ _ state

theorem yields_createAccount_full {new : NewAccount} (hfull : isFull state.database = true) :
    Yields (createAccount new) state (.error (.broken .databaseFailed)) state.database := by
  refine yields_guarded hundisturbed (.get_bind ?_)
  rw [if_pos hfull]
  exact yields_breakDown .databaseFailed state

theorem yields_accountExists (username email : String) :
    Yields (accountExists username email) state (.ok (state.database.isTaken username email))
      state.database :=
  yields_guarded hundisturbed (.get_bind (.pure _ state))

theorem yields_accountById {id : Int} (hfits : fitsColumn id = true) :
    Yields (accountById id) state (.ok (state.database.account? id)) state.database :=
  yields_column hundisturbed hfits (.get_bind (.pure _ state))

theorem yields_accountByIdentifier (identifier : String) :
    Yields (accountByIdentifier identifier) state (.ok (state.database.accountOf? identifier))
      state.database :=
  yields_guarded hundisturbed (.get_bind (.pure _ state))

theorem yields_countAccounts :
    Yields countAccounts state (.ok state.database.accounts.length) state.database :=
  yields_guarded hundisturbed (.get_bind (.pure _ state))

theorem account?_of_accountById
    {id : Int} {account : Account} (hfound : (exec (accountById id) state).1 = .ok (some account)) :
    fitsColumn id = true ∧ state.database.account? id = some account := by
  by_cases hfits : fitsColumn id = true
  · obtain ⟨later, hexec, -⟩ := yields_accountById hundisturbed hfits
    rw [hexec] at hfound
    exact ⟨hfits, Except.ok.inj hfound⟩
  · obtain ⟨later, hexec, -⟩ : Yields (accountById id) state _ state.database :=
      yields_overflow hundisturbed hfits
    rw [hexec] at hfound
    cases hfound

/-- A lookup leaves its state alone. -/
theorem exec_accountExists (username email : String) :
    exec (accountExists username email) state =
      (.ok (state.database.isTaken username email), state) := by
  rw [accountExists, exec_guarded hundisturbed]
  rfl

theorem exec_accountByIdentifier (identifier : String) :
    exec (accountByIdentifier identifier) state =
      (.ok (state.database.accountOf? identifier), state) := by
  rw [accountByIdentifier, exec_guarded hundisturbed]
  rfl

theorem yields_markVerified {id : Int} (hfits : fitsColumn id = true) :
    Yields (markVerified id) state (.ok (state.database.hasAccount id))
      (state.database.markVerified id state.now) :=
  yields_column hundisturbed hfits (.get_bind (yields_store (.pure _)))

theorem yields_setActive {id : Int} (hfits : fitsColumn id = true) (active : Bool) :
    Yields (setActive id active) state (.ok (state.database.hasAccount id))
      (state.database.setActive id active state.now) :=
  yields_column hundisturbed hfits (.get_bind (yields_store (.pure _)))

theorem yields_stampLogin {id : Int} (hfits : fitsColumn id = true) (moment : Option Moment) :
    Yields (stampLogin id moment) state (.ok (moment.getD state.now))
      (state.database.stampLogin id (moment.getD state.now)) := by
  refine yields_guarded hundisturbed (now_bind (yields_requireColumn hfits ?_))
  exact yields_store (.pure (moment.getD state.now))

theorem yields_stampLogin_overflow
    {id : Int} (hfits : ¬ fitsColumn id = true) (moment : Option Moment) :
    Yields (stampLogin id moment) state (.error (.broken .columnOverflow)) state.database :=
  yields_guarded hundisturbed (now_bind (.bind_error (yields_requireColumn_overflow hfits state)))

theorem yields_ping : Yields ping state (.ok true) state.database :=
  yields_guarded hundisturbed (.pure true state)

/-! ## Session records -/

theorem yields_createRecord
    {userId : Int} (hfits : fitsColumn userId = true) {token : String} {expiresAt : Moment}
    {id : Int} {database : Database}
    (hadd : state.database.addRecord? userId token expiresAt state.now = some (id, database)) :
    Yields (createRecord userId token expiresAt) state (.ok id) database := by
  refine yields_column hundisturbed hfits (.get_bind ?_)
  simp only [hadd]
  exact yields_store fun later => yields_note_return _ _ _ id later

theorem yields_createRecord_taken
    {userId : Int} (hfits : fitsColumn userId = true) {token : String} {expiresAt : Moment}
    (hadd : state.database.addRecord? userId token expiresAt state.now = none) :
    Yields (createRecord userId token expiresAt) state (.error (.usual .tokenCollision))
      state.database := by
  refine yields_column hundisturbed hfits (.get_bind ?_)
  simp only [hadd]
  exact yields_note_throw _ _ _ _ state

theorem yields_liveRecord (token : String) :
    Yields (liveRecord token) state (.ok (state.database.liveRecord? token state.now))
      state.database :=
  yields_guarded hundisturbed (.get_bind (.pure _ state))

theorem yields_findRecord (token : String) :
    Yields (findRecord token) state (.ok (state.database.record? token)) state.database :=
  yields_guarded hundisturbed (.get_bind (.pure _ state))

theorem yields_revokeRecord {token : String}
    (hopen : state.database.countOpen (·.token == token) ≠ 0) :
    Yields (revokeRecord token) state (.ok true)
      (state.database.revokeWhere (·.token == token) state.now) := by
  refine yields_guarded hundisturbed (.get_bind ?_)
  rw [if_neg hopen]
  exact yields_store fun later => yields_note_return _ _ _ true later

theorem yields_revokeRecord_none {token : String}
    (hopen : state.database.countOpen (·.token == token) = 0) :
    Yields (revokeRecord token) state (.ok false) state.database := by
  refine yields_guarded hundisturbed (.get_bind ?_)
  rw [if_pos hopen]
  exact yields_note_return _ _ _ false state

theorem yields_revokeAllRecords {userId : Int} (hfits : fitsColumn userId = true) :
    Yields (revokeAllRecords userId) state
      (.ok (state.database.countOpen (·.userId == userId)))
      (state.database.revokeWhere (·.userId == userId) state.now) :=
  yields_column hundisturbed hfits (.get_bind (yields_store fun later => yields_note_return _ _ _ _ later))

theorem yields_sweepRecords :
    Yields sweepRecords state (.ok (state.database.countSpent state.now))
      (state.database.sweep state.now) :=
  yields_guarded hundisturbed (.get_bind (yields_store fun later => yields_note_return _ _ _ _ later))

theorem yields_listRecords {userId : Int} (hfits : fitsColumn userId = true) :
    Yields (listRecords userId) state (.ok (state.database.recordsOf userId)) state.database :=
  yields_column hundisturbed hfits (.get_bind (.pure _ state))

end AccountSessions.Store
