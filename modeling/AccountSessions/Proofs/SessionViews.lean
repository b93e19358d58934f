import AccountSessions.Proofs.LiveSessions
import AccountSessions.Proofs.StoreRuns
import AccountSessions.Proofs.StoredMoments

/-!
# Views of a session

Whether a session can be used is found out in three places: a lookup by token and a sweep
compare stored texts, and the console compares moments that it has read back from them.
All three find the same, also at the moment of expiry.  Stored texts are plain ASCII, so
that the order of their characters is the one that a database gives their bytes.
-/

namespace AccountSessions

/-! ## Rows of texts -/

/-- A row of the table of sessions.  It holds moments as their texts. -/
structure SessionRow where
  id : Int
  userId : Int
  token : String
  expiresAt : String
  createdAt : String
  revokedAt : Option String

namespace SessionRow

/-- The row that a record is stored as. -/
def ofRecord (record : SessionRecord) : SessionRow where
  id := record.id
  userId := record.userId
  token := record.token
  expiresAt := MomentText.stored record.expiresAt
  createdAt := MomentText.stored record.createdAt
  revokedAt := record.revokedAt.map MomentText.stored

def read (row : SessionRow) : Except MomentText.Fault SessionRecord := do
  let expiresAt ← MomentText.read row.expiresAt
  let createdAt ← MomentText.read row.createdAt
  let revokedAt ← row.revokedAt.mapM MomentText.read
  return ⟨row.id, row.userId, row.token, expiresAt, createdAt, revokedAt⟩

/-- What a lookup asks of a row. -/
def isLive (row : SessionRow) (now : String) : Bool :=
  row.revokedAt.isNone && now < row.expiresAt

/-- What a sweep asks of a row. -/
def isSpent (row : SessionRow) (now : String) : Bool :=
  row.expiresAt ≤ now || row.revokedAt.isSome

theorem read_ofRecord (record : SessionRecord) : (ofRecord record).read = .ok record := by
  obtain ⟨id, userId, token, expiresAt, createdAt, revokedAt⟩ := record
  have hrevoked : (revokedAt.map MomentText.stored).mapM MomentText.read =
      (.ok revokedAt : Except MomentText.Fault (Option Moment)) := by
    cases revokedAt with
    | none => rfl
    | some moment =>
        rw [Option.map_some, Option.mapM_some, MomentText.read_stored]
        rfl
  rw [read, ofRecord]
  dsimp only
  rw [MomentText.read_stored, MomentText.read_stored, hrevoked]
  rfl

theorem isLive_ofRecord (record : SessionRecord) (now : Moment) :
    (ofRecord record).isLive (MomentText.stored now) = record.isLive now := by
  rw [isLive, SessionRecord.isLive, SessionRecord.isOpen, Moment.before, ofRecord,
    Option.isNone_map]
  simp only [MomentText.stored_lt_iff]

theorem isSpent_ofRecord (record : SessionRecord) (now : Moment) :
    (ofRecord record).isSpent (MomentText.stored now) = record.isSpent now := by
  have hexpired : MomentText.stored record.expiresAt ≤ MomentText.stored now ↔
      ¬ now.micros < record.expiresAt.micros := by
    rw [← MomentText.stored_lt_iff, String.not_lt]
  rw [isSpent, SessionRecord.isSpent, SessionRecord.isOpen, Moment.before, ofRecord,
    Option.isSome_map]
  simp only [hexpired, decide_not, Option.not_isNone]

/-- A session is over at the very moment of its end. -/
example :
    (ofRecord ⟨1, 1, "token", .epoch, .epoch, none⟩).isSpent (MomentText.stored .epoch) = true := by
  decide +kernel

/-! ### Tables of texts -/

def lookup? (rows : List SessionRow) (token now : String) : Option SessionRow :=
  rows.find? fun row => row.token == token && row.isLive now

def sweep (rows : List SessionRow) (now : String) : List SessionRow :=
  rows.filter (!·.isSpent now)

def countSpent (rows : List SessionRow) (now : String) : Nat :=
  rows.countP (·.isSpent now)

section MapOfRecord

variable (db : Database) (now : Moment)

theorem lookup?_map_ofRecord (token : String) :
    lookup? (db.records.map ofRecord) token (MomentText.stored now) =
      (db.liveRecord? token now).map ofRecord := by
  have htest : (fun row : SessionRow =>
      row.token == token && row.isLive (MomentText.stored now)) ∘ ofRecord =
        fun record => record.token == token && record.isLive now := by
    funext record
    rw [Function.comp_apply, isLive_ofRecord]
    rfl
  rw [lookup?, List.find?_map, htest, Database.liveRecord?]

theorem sweep_map_ofRecord :
    sweep (db.records.map ofRecord) (MomentText.stored now) =
      (db.sweep now).records.map ofRecord := by
  have htest : (fun row : SessionRow => !row.isSpent (MomentText.stored now)) ∘ ofRecord =
      fun record => !record.isSpent now := by
    funext record
    rw [Function.comp_apply, isSpent_ofRecord]
  rw [sweep, List.filter_map, htest, Database.sweep]

theorem countSpent_map_ofRecord :
    countSpent (db.records.map ofRecord) (MomentText.stored now) = db.countSpent now := by
  have htest : (fun row : SessionRow => row.isSpent (MomentText.stored now)) ∘ ofRecord =
      fun record => record.isSpent now := by
    funext record
    rw [Function.comp_apply, isSpent_ofRecord]
  rw [countSpent, List.countP_map, htest, Database.countSpent]

end MapOfRecord

/-- The calls of the store find and take away what a comparison of texts tells them to. -/
structure Mirrored (state : State) : Prop where
  read : ∀ record ∈ state.database.records, (ofRecord record).read = .ok record
  lookup : ∀ token, ∃ found, (exec (Store.liveRecord token) state).1 = .ok found ∧
    lookup? (state.database.records.map ofRecord) token (MomentText.stored state.now) =
      found.map ofRecord
  count : (exec Store.sweepRecords state).1 =
    .ok (countSpent (state.database.records.map ofRecord) (MomentText.stored state.now))
  sweep : (exec Store.sweepRecords state).2.database.records.map ofRecord =
    sweep (state.database.records.map ofRecord) (MomentText.stored state.now)

theorem mirrored {state : State} (hundisturbed : state.disturbances = []) : Mirrored state := by
  obtain ⟨later, hswept, hleads⟩ := Store.yields_sweepRecords hundisturbed
  constructor
  · intro record _
    rw [read_ofRecord]
  · intro token
    obtain ⟨_, hfound, -⟩ := Store.yields_liveRecord hundisturbed token
    exact ⟨_, congrArg Prod.fst hfound, lookup?_map_ofRecord state.database state.now token⟩
  · rw [hswept, countSpent_map_ofRecord]
  · rw [hswept, sweep_map_ofRecord, hleads.database]

end SessionRow

/-! ## Views of a record -/

namespace SessionRecord

theorem name_state_eq_live {record : SessionRecord} {now : Moment} :
    (record.state now).name = "live" ↔ record.isLive now = true := by
  have hname (state : SessionRecord.State) : state.name = "live" ↔ state = .live := by
    cases state with
    | revoked | expired | live => decide
  rw [hname, state, stateAt, isLive, isOpen, Moment.before]
  cases hrevoked : record.revokedAt with
  | some moment => simp
  | none => simp

end SessionRecord

namespace Database

theorem of_liveRecord?_eq_some
    {db : Database} {token : String} {now : Moment} {record : SessionRecord}
    (hfound : db.liveRecord? token now = some record) :
    record ∈ db.records ∧ record.token = token ∧ record.isLive now = true := by
  rw [liveRecord?] at hfound
  have hpasses := List.find?_some hfound
  rw [Bool.and_eq_true, beq_iff_eq] at hpasses
  exact ⟨List.mem_of_find?_eq_some hfound, hpasses⟩

theorem liveRecord?_eq_some_iff
    {db : Database} (htokens : (db.records.map (·.token)).Nodup) {record : SessionRecord}
    (hmem : record ∈ db.records) (now : Moment) :
    db.liveRecord? record.token now = some record ↔ record.isLive now = true := by
  constructor
  · intro hfound
    exact (of_liveRecord?_eq_some hfound).2.2
  · intro hlive
    cases hfound : db.liveRecord? record.token now with
    | none =>
        have hnone := List.find?_eq_none.mp hfound record hmem
        simp [hlive] at hnone
    | some found =>
        obtain ⟨hmemFound, htoken, -⟩ := of_liveRecord?_eq_some hfound
        rw [List.inj_on_of_nodup_map htokens hmemFound hmem htoken]

theorem countSpent_sweep (db : Database) (now : Moment) : (db.sweep now).countSpent now = 0 := by
  refine List.countP_eq_zero.mpr fun record hmem => ?_
  rw [(mem_sweep.mp hmem).2]
  exact Bool.false_ne_true

theorem sweep_sweep (db : Database) (now : Moment) : (db.sweep now).sweep now = db.sweep now := by
  have hkept : (db.sweep now).records.filter (!·.isSpent now) = (db.sweep now).records := by
    rw [List.filter_eq_self]
    intro record hmem
    rw [(mem_sweep.mp hmem).2]
    rfl
  rw [sweep, hkept]

end Database

/-! ## Reached databases -/

namespace Store

/-- In every state that acts lead to, the lookup by token finds a record, the console shows
it as live and a sweep leaves it there, all or none of them.  The sweep takes away the other
records, tells how many they were, and finds nothing when it comes again at that moment. -/
theorem session_views_agree
    (begin : Moment) (ids : Nat → String) (acts : List (Moment × Act)) (now : Moment) :
    let state : State := { after (.start begin ids) acts with now := now }
    let swept := exec sweepRecords state
    let again := exec sweepRecords { swept.2 with now := now }
    (∀ record ∈ state.database.records,
      ((exec (liveRecord record.token) state).1 = .ok (some record) ↔
        (record.state now).name = "live") ∧
      (record ∈ swept.2.database.records ↔ (record.state now).name = "live")) ∧
    swept.1 = .ok (state.database.records.countP fun record => (record.state now).name ≠ "live") ∧
    swept.2.database =
      { state.database with
        records := state.database.records.filter
          fun record => (record.state now).name = "live" } ∧
    again.1 = .ok 0 ∧ again.2.database = swept.2.database ∧
    SessionRow.Mirrored state := by
  intro state swept again
  have hcalm : state.disturbances = [] := undisturbed_after rfl acts
  have hintegral : state.database.Integral := integral_after rfl .empty acts
  have hkept (record : SessionRecord) :
      (!record.isSpent now) = decide ((record.state now).name = "live") := by
    rw [SessionRecord.isSpent_eq, Bool.not_not, Bool.eq_iff_iff, decide_eq_true_iff,
      SessionRecord.name_state_eq_live]
  obtain ⟨later, hswept, hleads⟩ := yields_sweepRecords hcalm
  have hfirst : swept = (.ok (state.database.countSpent now), later) := hswept
  have hdatabase : swept.2.database = state.database.sweep now := by
    rw [hfirst]
    exact hleads.database
  have hsweptCalm : ({ swept.2 with now := now } : State).disturbances = [] := by
    rw [hfirst]
    exact hleads.disturbances.trans hcalm
  obtain ⟨last, hagain, hlast⟩ := yields_sweepRecords hsweptCalm
  have hsecond : again = (.ok (swept.2.database.countSpent now), last) := hagain
  refine ⟨?_, ?_, ?_, ?_, ?_, SessionRow.mirrored hcalm⟩
  · intro record hmem
    obtain ⟨_, hfound, -⟩ := yields_liveRecord hcalm record.token
    have hanswer : (exec (liveRecord record.token) state).1 =
        .ok (state.database.liveRecord? record.token now) := congrArg Prod.fst hfound
    constructor
    · rw [hanswer, Except.ok.injEq, Database.liveRecord?_eq_some_iff hintegral.tokens hmem,
        SessionRecord.name_state_eq_live]
    · rw [hdatabase, Database.mem_sweep, SessionRecord.name_state_eq_live, SessionRecord.isSpent_eq,
        Bool.not_eq_false']
      exact and_iff_right hmem
  · rw [hfirst, Database.countSpent]
    simp only [decide_not, ← hkept, Bool.not_not]
  · rw [hdatabase, Database.sweep]
    simp only [hkept]
  · rw [hsecond, hdatabase, Database.countSpent_sweep]
  · have hlater : again.2.database = swept.2.database.sweep now := by
      rw [hsecond]
      exact hlast.database
    rw [hlater, hdatabase, Database.sweep_sweep]

end Store

end AccountSessions
