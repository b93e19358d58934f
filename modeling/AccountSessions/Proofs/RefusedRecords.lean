import AccountSessions.Proofs.SessionCalls
import AccountSessions.Proofs.StoreRuns

/-!
# Refused records

The table of records refuses a row for its token, which may be stored already, and for
its owner, who may be unknown.  The store does not tell the two causes apart: it reports
a collision of tokens for either, and leaves both tables as they were.
-/

namespace AccountSessions

namespace Database

/-- A record with this token is stored. -/
def Holds (db : Database) (token : String) : Prop :=
  ∃ record ∈ db.records, record.token = token

theorem addRecord?_eq_none_iff
    {db : Database} {userId : Int} {token : String} {expires now : Moment} :
    db.addRecord? userId token expires now = none ↔
      db.hasAccount userId = false ∨ db.Holds token := by
  constructor
  · intro hadd
    cases hhas : db.hasAccount userId with
    | false => exact .inl rfl
    | true => exact .inr (exists_of_addRecord?_eq_none hhas hadd)
  · intro hcause
    cases hadd : db.addRecord? userId token expires now with
    | none => rfl
    | some row =>
        obtain ⟨_, -, -, -, hhas, hnew⟩ := exists_of_addRecord? hadd
        rcases hcause with hunknown | ⟨record, hmem, htoken⟩
        · rw [hhas] at hunknown
          cases hunknown
        · exact (hnew record hmem htoken).elim

end Database

namespace Store

open Operation

/-- What the store makes of a record that it is handed, by the way it ends. -/
structure CreationRule (state : State) (userId : Int) (token : String) (expiresAt : Moment)
    (result : Except Failure Int × State) : Prop where
  collision_iff : result.1 = .error (.usual .tokenCollision) ↔
    fitsColumn userId = true ∧
      (state.database.hasAccount userId = false ∨ state.database.Holds token)
  overflow_iff : result.1 = .error (.broken .columnOverflow) ↔ ¬ fitsColumn userId = true
  refused : ∀ failure, result.1 = .error failure →
    (failure = .usual .tokenCollision ∨ failure = .broken .columnOverflow) ∧
      result.2.database = state.database
  stored : ∀ id, result.1 = .ok id →
    id = Database.nextId (state.database.records.map (·.id)) ∧
      result.2.database = { state.database with
        records := state.database.records ++
          [⟨id, userId, token, expiresAt, state.now, none⟩] }

theorem creationRule
    {state : State} (hundisturbed : state.disturbances = []) (userId : Int) (token : String)
    (expiresAt : Moment) :
    CreationRule state userId token expiresAt
      (exec (createRecord userId token expiresAt) state) := by
  have hcause : state.database.addRecord? userId token expiresAt state.now = none ↔
      state.database.hasAccount userId = false ∨ state.database.Holds token :=
    Database.addRecord?_eq_none_iff
  by_cases hfits : fitsColumn userId = true
  · cases hadd : state.database.addRecord? userId token expiresAt state.now with
    | none =>
        obtain ⟨log, hexec⟩ := exec_createRecord_taken hundisturbed hfits hadd
        rw [hexec]
        exact
          { collision_iff := iff_of_true rfl ⟨hfits, hcause.mp hadd⟩
            overflow_iff := iff_of_false nofun (not_not_intro hfits)
            refused := by
              rintro _ ⟨⟩
              exact ⟨.inl rfl, rfl⟩
            stored := nofun }
    | some row =>
        obtain ⟨id, added⟩ := row
        obtain ⟨log, hexec⟩ := exec_createRecord (disturbance?_of_undisturbed hundisturbed _) hfits hadd
        have hallowed : ¬ (state.database.hasAccount userId = false ∨
            state.database.Holds token) := by
          rw [← hcause, hadd]
          nofun
        obtain ⟨record, hadded, hrecord, hid, -⟩ := Database.exists_of_addRecord? hadd
        rw [hexec]
        exact
          { collision_iff := iff_of_false nofun fun h => hallowed h.2
            overflow_iff := iff_of_false nofun (not_not_intro hfits)
            refused := nofun
            stored := by
              rintro _ ⟨⟩
              exact ⟨hid, by rw [hadded, hrecord]⟩ }
  · rw [exec_createRecord_overflow hundisturbed hfits]
    exact
      { collision_iff := iff_of_false nofun fun h => hfits h.1
        overflow_iff := iff_of_true rfl hfits
        refused := by
          rintro _ ⟨⟩
          exact ⟨.inr rfl, rfl⟩
        stored := nofun }

/-- In every state that store calls lead to a collision is reported for a token that is
stored and for an owner that is not there, and for nothing else.  It says that the token
is stored just when the owner is there; no refusal changes a table. -/
theorem collision_reported_iff
    (begin : Moment) (ids : Nat → String) (acts : List (Moment × Act)) (now : Moment)
    (userId : Int) (token : String) (expiresAt : Moment) :
    let state := { after (.start begin ids) acts with now := now }
    let result := exec (createRecord userId token expiresAt) state
    CreationRule state userId token expiresAt result ∧
      (fitsColumn userId = true → ¬ state.database.Holds token →
        (result.1 = .error (.usual .tokenCollision) ↔
          state.database.hasAccount userId = false)) ∧
      (fitsColumn userId = true → state.database.hasAccount userId = true →
        (result.1 = .error (.usual .tokenCollision) ↔ state.database.Holds token)) := by
  intro state result
  have hcalm : state.disturbances = [] := undisturbed_after rfl acts
  have hrule := creationRule hcalm userId token expiresAt
  refine ⟨hrule, ?_, ?_⟩
  · intro hfits hfree
    rw [hrule.collision_iff]
    simp [hfits, hfree]
  · intro hfits hhas
    rw [hrule.collision_iff]
    simp [hfits, hhas]

/-- A collision for a token that is stored nowhere, since its owner has not registered. -/
theorem collision_reported_for_stranger :
    let ann : NewAccount := ⟨some "ann", some "a@b.org", some "hash", some "Ann", false, true⟩
    let acts : List (Moment × Act) :=
      [({ micros := 1 }, .createAccount ann),
        ({ micros := 2 }, .createRecord 1 "token" { micros := 9 })]
    let state := { after (.start .epoch) acts with now := { micros := 3 } }
    let result := exec (createRecord 2 "other" { micros := 9 }) state
    fitsColumn 2 = true ∧ ¬ state.database.Holds "other" ∧
      result.1 = .error (.usual .tokenCollision) ∧ result.2.database = state.database := by
  intro ann acts state result
  have hrecords : state.database.records.map (·.token) = ["token"] := by decide +kernel
  have hfree : ¬ state.database.Holds "other" := by
    rintro ⟨record, hmem, htoken⟩
    have htokens : record.token ∈ state.database.records.map (·.token) := List.mem_map_of_mem hmem
    rw [hrecords, htoken] at htokens
    simp at htokens
  obtain ⟨hrule, hstranger, -⟩ := collision_reported_iff .epoch Token.numberedId acts
    { micros := 3 } 2 "other" { micros := 9 }
  have hcollision := (hstranger (by decide) hfree).mpr (by decide +kernel)
  exact ⟨by decide, hfree, hcollision, (hrule.refused _ hcollision).2⟩

end Store

end AccountSessions
