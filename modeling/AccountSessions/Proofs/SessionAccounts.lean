import AccountSessions.Proofs.Rows
import AccountSessions.Proofs.Runs
import AccountSessions.Proofs.SmallDeployment
import Mathlib.Algebra.BigOperators.Group.List.Basic

/-!
# The balance of sessions

Every successful login opens a session, and there are four ways to end one: a logout, the
two calls that cut a user off, and a purge that takes an open record away.  What the
calls report balances with the records at every point of a run, so no session is ended
twice and none is lost.
-/

namespace AccountSessions

/-! ## Counting open records -/

namespace Database

/-- What a revocation takes from a count are the open records that it has found. -/
theorem countOpen_revokeWhere
    (db : Database) (test which : SessionRecord → Bool) (now : Moment) :
    db.countOpen which =
      (db.revokeWhere test now).countOpen which +
        db.countOpen fun record => test record && which record := by
  have hkept : (db.revokeWhere test now).countOpen which =
      (db.records.filter fun record => !test record).countP fun record =>
        record.isOpen && which record := by
    rw [countOpen, revokeWhere, List.countP_map, List.countP_filter]
    apply List.countP_congr
    intro record _
    rw [Function.comp_apply]
    by_cases hrevoked : (record.isOpen && test record) = true
    · rw [if_pos hrevoked]
      simp [SessionRecord.isOpen, (Bool.and_eq_true_iff.mp hrevoked).2]
    · rw [if_neg hrevoked]
      have hspared : record.isOpen = true → test record = false := by simpa using hrevoked
      simp +contextual [hspared]
  have hfound : db.countOpen (fun record => test record && which record) =
      (db.records.filter test).countP fun record => record.isOpen && which record := by
    rw [List.countP_filter]
    apply List.countP_congr
    intro record _
    simp only [Bool.and_assoc, Bool.and_comm (test record)]
  rw [hkept, hfound, Nat.add_comm]
  exact List.countP_eq_countP_filter_add db.records _ test

/-- What a sweep takes from a count are the open records that have expired. -/
theorem countOpen_sweep (db : Database) (which : SessionRecord → Bool) (now : Moment) :
    db.countOpen which =
      (db.sweep now).countOpen which +
        db.countOpen fun record => which record && !(db.sweep now).records.contains record := by
  have hgone : (db.countOpen fun record =>
      which record && !(db.sweep now).records.contains record) =
      (db.records.filter fun record => record.isSpent now).countP fun record =>
        record.isOpen && which record := by
    rw [List.countP_filter]
    apply List.countP_congr
    intro record hrecord
    have hkept : (db.sweep now).records.contains record = !record.isSpent now := by
      rw [Bool.eq_iff_iff, List.contains_iff_mem, mem_sweep]
      simp [hrecord]
    dsimp only
    rw [hkept, Bool.not_not, Bool.and_assoc]
  have hsplit := List.countP_eq_countP_filter_add db.records
    (fun record => record.isOpen && which record) fun record => record.isSpent now
  rw [hgone, Nat.add_comm]
  exact hsplit

theorem length_sweep (db : Database) (now : Moment) :
    db.records.length = (db.sweep now).records.length + db.countSpent now := by
  have hsplit := List.length_eq_countP_add_countP (fun record => record.isSpent now)
    (l := db.records)
  rw [hsplit, Nat.add_comm, countSpent, sweep, ← List.countP_eq_length_filter]
  simp

variable {db : Database} (hintegral : db.Integral)

include hintegral

theorem countP_token_le_one (token : String) :
    db.records.countP (·.token == token) ≤ 1 := by
  have hcount := List.nodup_iff_count_le_one.mp hintegral.tokens token
  rw [List.count_eq_countP, List.countP_map] at hcount
  exact hcount

/-- An open record of a token is its only record. -/
theorem countOpen_token
    {token : String} (hopen : db.countOpen (·.token == token) ≠ 0) (which : SessionRecord → Bool) :
    db.countOpen (fun record => record.token == token && which record) =
      if db.records.any (fun record => record.token == token && which record) then 1 else 0 := by
  obtain ⟨record, hmem, hrecord⟩ := List.countP_pos_iff.mp (Nat.pos_of_ne_zero hopen)
  obtain ⟨hrecordOpen, htoken⟩ := Bool.and_eq_true_iff.mp hrecord
  have hsame {other : SessionRecord} (hother : other ∈ db.records)
      (hotherToken : (other.token == token) = true) : other = record := by
    apply List.inj_on_of_nodup_map hintegral.tokens hother hmem
    exact (beq_iff_eq.mp hotherToken).trans (beq_iff_eq.mp htoken).symm
  by_cases hany : db.records.any (fun record => record.token == token && which record) = true
  · rw [if_pos hany]
    obtain ⟨other, hother, htest⟩ := List.any_eq_true.mp hany
    have hpositive : 0 < db.countOpen fun record => record.token == token && which record := by
      refine List.countP_pos_iff.mpr ⟨record, hmem, ?_⟩
      rw [← hsame hother (Bool.and_eq_true_iff.mp htest).1] at hrecordOpen ⊢
      exact Bool.and_eq_true_iff.mpr ⟨hrecordOpen, htest⟩
    have hbound : db.countOpen (fun record => record.token == token && which record) ≤
        db.records.countP (·.token == token) := by
      apply List.countP_mono_left
      intro other _ htest
      exact (Bool.and_eq_true_iff.mp (Bool.and_eq_true_iff.mp htest).2).1
    have hone := countP_token_le_one hintegral token
    omega
  · rw [if_neg hany]
    refine List.countP_eq_zero.mpr ?_
    intro other hother htest
    exact hany (List.any_eq_true.mpr ⟨other, hother, (Bool.and_eq_true_iff.mp htest).2⟩)

end Database

/-! ## The counts of a call -/

/-- A call of a run between the databases before and after it. -/
structure Passage where
  before : Database
  entry : Entry
  after : Database

namespace Passage

def logins (userId : Int) (passage : Passage) : Nat :=
  match passage.entry.call, passage.entry.outcome with
  | .login _ _, .ok (.session session) => if session.account.id = userId then 1 else 0
  | _, _ => 0

/-- Logins of any user. -/
def openings (passage : Passage) : Nat :=
  match passage.entry.call, passage.entry.outcome with
  | .login _ _, .ok _ => 1
  | _, _ => 0

/-- Logouts, by whomever, of a token that the user holds. -/
def logouts (userId : Int) (passage : Passage) : Nat :=
  match passage.entry.call, passage.entry.outcome with
  | .logout _ token, .ok _ =>
    if passage.before.records.any fun record => record.token == token && record.userId == userId
    then 1 else 0
  | _, _ => 0

/-- The reported sessions that ended when the user was cut off. -/
def cutOffs (userId : Int) (passage : Passage) : Nat :=
  match passage.entry.call, passage.entry.outcome with
  | .logoutAll id, .ok (.count count) => if id = userId then count else 0
  | .deactivate id, .ok (.count count) => if id = userId then count else 0
  | _, _ => 0

/-- The open records of the user that a purge took away. -/
def lapses (userId : Int) (passage : Passage) : Nat :=
  match passage.entry.call, passage.entry.outcome with
  | .purge, .ok _ =>
    passage.before.countOpen fun record =>
      record.userId == userId && !passage.after.records.contains record
  | _, _ => 0

/-- The reported records that a purge took away. -/
def swept (passage : Passage) : Nat :=
  match passage.entry.call, passage.entry.outcome with
  | .purge, .ok (.count count) => count
  | _, _ => 0

structure Balanced (passage : Passage) : Prop where
  sessions : ∀ userId,
    passage.before.countOpen (·.userId == userId) + passage.logins userId =
      passage.after.countOpen (·.userId == userId) + passage.logouts userId +
        passage.cutOffs userId + passage.lapses userId
  records : passage.before.records.length + passage.openings =
    passage.after.records.length + passage.swept

/-- A call that opens and ends no session and leaves the records alone. -/
theorem Balanced.of_idle
    {passage : Passage} (hrecords : passage.after.records = passage.before.records)
    (hlogins : ∀ userId, passage.logins userId = 0) (hopenings : passage.openings = 0)
    (hlogouts : ∀ userId, passage.logouts userId = 0)
    (hcutOffs : ∀ userId, passage.cutOffs userId = 0)
    (hlapses : ∀ userId, passage.lapses userId = 0) (hswept : passage.swept = 0) :
    passage.Balanced where
  sessions := by
    intro userId
    rw [hlogins, hlogouts, hcutOffs, hlapses, Database.countOpen, Database.countOpen, hrecords]
  records := by rw [hopenings, hswept, hrecords]

end Passage

/-! ## One call -/

/-- A revocation of all sessions of a user reports the open ones. -/
theorem countOpen_cutOff (db : Database) (id userId : Int) (now : Moment) :
    db.countOpen (·.userId == userId) =
      (db.revokeWhere (·.userId == id) now).countOpen (·.userId == userId) +
        if id = userId then db.countOpen (·.userId == id) else 0 := by
  rw [db.countOpen_revokeWhere (·.userId == id) (·.userId == userId) now]
  congr 1
  by_cases hid : id = userId
  · rw [if_pos hid, hid]
    simp only [Bool.and_self]
  · rw [if_neg hid]
    refine List.countP_eq_zero.mpr ?_
    intro record _ hrecord
    simp only [Bool.and_eq_true, beq_iff_eq] at hrecord
    exact hid (hrecord.2.1.symm.trans hrecord.2.2)

theorem Effect.balanced
    {service : Service} {ids : TokenIds} {now : Moment} {db later : Database} {call : Call}
    {outcome : Except Failure Answer} (heffect : Effect service ids now db call outcome later)
    (hintegral : db.Integral) :
    (Passage.mk db ⟨now, call, outcome⟩ later).Balanced := by
  cases heffect with
  | registered hadd =>
      exact .of_idle (Database.records_of_addAccount? hadd) (fun _ => rfl) rfl (fun _ => rfl)
        (fun _ => rfl) (fun _ => rfl) rfl
  | verified =>
      exact .of_idle rfl (fun _ => rfl) rfl (fun _ => rfl) (fun _ => rfl) (fun _ => rfl) rfl
  | @loggedIn _ _ _ _ _ account _ _ _ hfound hfits hoffers hissue hexpires hadd =>
      obtain ⟨-, rfl⟩ := Database.addRecord?_eq_some hadd
      constructor
      · intro userId
        dsimp only [Passage.logins, Passage.logouts, Passage.cutOffs, Passage.lapses]
        rw [Database.countOpen, Database.countOpen, Database.stampLogin, Database.changeAccount,
          List.countP_append, List.countP_singleton]
        simp only [SessionRecord.isOpen, Option.isNone_none, Bool.true_and, beq_iff_eq]
        rfl
      · dsimp only [Passage.openings, Passage.swept]
        rw [Database.stampLogin, Database.changeAccount, List.length_append, List.length_singleton]
  | @loggedOut caller token claims hvalid howner hopen =>
      constructor
      · intro userId
        dsimp only [Passage.logins, Passage.logouts, Passage.cutOffs, Passage.lapses]
        rw [db.countOpen_revokeWhere (·.token == token) (·.userId == userId) now,
          Database.countOpen_token hintegral hopen]
      · exact (List.length_map _).symm
  | @loggedOutAll id =>
      constructor
      · intro userId
        dsimp only [Passage.logins, Passage.logouts, Passage.cutOffs, Passage.lapses]
        rw [countOpen_cutOff db id userId now]
        omega
      · exact (List.length_map _).symm
  | @deactivated id =>
      constructor
      · intro userId
        dsimp only [Passage.logins, Passage.logouts, Passage.cutOffs, Passage.lapses]
        have hcutOff := countOpen_cutOff (db.setActive id false now) id userId now
        have hrecords (test : SessionRecord → Bool) :
            (db.setActive id false now).countOpen test = db.countOpen test := rfl
        rw [hrecords, hrecords] at hcutOff
        omega
      · exact (List.length_map _).symm
  | activated =>
      exact .of_idle rfl (fun _ => rfl) rfl (fun _ => rfl) (fun _ => rfl) (fun _ => rfl) rfl
  | purged =>
      constructor
      · intro userId
        dsimp only [Passage.logins, Passage.logouts, Passage.cutOffs, Passage.lapses]
        rw [db.countOpen_sweep (·.userId == userId) now]
        omega
      · exact db.length_sweep now
  | read hreads =>
      cases call with
      | refresh | validateToken | listSessions =>
          exact .of_idle rfl (fun _ => rfl) rfl (fun _ => rfl) (fun _ => rfl) (fun _ => rfl) rfl
      | _ => cases hreads
  | refused _ =>
      cases call with
      | _ => exact .of_idle rfl (fun _ => rfl) rfl (fun _ => rfl) (fun _ => rfl) (fun _ => rfl) rfl

/-! ## Runs -/

/-- A run with the databases around each of its calls. -/
inductive Journal (service : Service) (start : State) : List Passage → State → Prop where
  | nil : Journal service start [] start
  | snoc {passages : List Passage} {state : State}
      (hjournal : Journal service start passages state) (moment : Moment) (call : Call) :
      Journal service start
        (passages ++ [⟨state.database, ⟨moment, call, (step service state moment call).1⟩,
          (step service state moment call).2.database⟩])
        (step service state moment call).2

theorem Run.exists_journal
    {service : Service} {start state : State} {history : List Entry}
    (hrun : Run service start history state) :
    ∃ passages, Journal service start passages state ∧ passages.map (·.entry) = history := by
  induction hrun with
  | nil => exact ⟨[], .nil, rfl⟩
  | snoc _ moment call ih =>
      obtain ⟨passages, hjournal, rfl⟩ := ih
      exact ⟨_, hjournal.snoc moment call, by rw [List.map_append]; rfl⟩

namespace Journal

variable {service : Service} {start state : State} {passages : List Passage}

theorem run (hjournal : Journal service start passages state) :
    Run service start (passages.map (·.entry)) state := by
  induction hjournal with
  | nil => exact .nil
  | snoc _ moment call ih =>
      rw [List.map_append]
      exact .snoc ih moment call

theorem integral
    (hstart : start.disturbances = []) (hempty : start.database.Integral)
    (hjournal : Journal service start passages state) :
    state.database.Integral :=
  hjournal.run.invariant hstart (fun _ db => db.Integral) hempty
    fun _ _ _ _ hintegral ⟨_, heffect, _⟩ => heffect.integral hintegral

/-- A balance holds at the end of a run if every call keeps it. -/
theorem balance
    (hstart : start.disturbances = []) (hempty : start.database.Integral)
    (gained lost : Passage → Nat) (stock : Database → Nat)
    (hpassage : ∀ passage : Passage, passage.Balanced →
      stock passage.before + gained passage = stock passage.after + lost passage)
    (hjournal : Journal service start passages state) :
    stock start.database + (passages.map gained).sum =
      stock state.database + (passages.map lost).sum := by
  induction hjournal with
  | nil => rfl
  | @snoc passages state hjournal moment call ih =>
      have hcalm := (hjournal.run.supplied hstart).undisturbed
      have hbalanced := (step_effect hcalm service moment call).1.balanced
        (hjournal.integral hstart hempty)
      have hlast := hpassage _ hbalanced
      rw [List.map_append, List.map_append, List.sum_append, List.sum_append, List.map_singleton,
        List.map_singleton, List.sum_singleton, List.sum_singleton]
      dsimp only at hlast
      omega

end Journal

/-- The logins of a user are the open records and what has been ended, and all logins are
the records and what has been swept. -/
theorem sessions_balance
    {service : Service} {begin : Moment} {ids : Nat → String} {passages : List Passage}
    {state : State} (hjournal : Journal service (.start begin ids) passages state) :
    (∀ userId, (passages.map (·.logins userId)).sum =
      state.database.countOpen (·.userId == userId) + (passages.map (·.logouts userId)).sum +
        (passages.map (·.cutOffs userId)).sum + (passages.map (·.lapses userId)).sum) ∧
    state.database.records.length + (passages.map (·.swept)).sum =
      (passages.map (·.openings)).sum := by
  constructor
  · intro userId
    have hbalance := hjournal.balance rfl .empty (·.logins userId)
      (fun passage => passage.logouts userId + passage.cutOffs userId + passage.lapses userId)
      (·.countOpen (·.userId == userId)) fun passage hbalanced => by rw [hbalanced.sessions]; omega
    have hempty : (State.start begin ids).database.countOpen (·.userId == userId) = 0 := rfl
    rw [hempty, Nat.zero_add, List.sum_map_add, List.sum_map_add, ← Nat.add_assoc,
      ← Nat.add_assoc] at hbalance
    exact hbalance
  · have hbalance := hjournal.balance rfl .empty (·.openings) (·.swept) (·.records.length)
      fun passage hbalanced => hbalanced.records
    have hempty : (State.start begin ids).database.records.length = 0 := rfl
    omega

/-- Ann and bob have logged in, ann is blocked, and a purge takes her record away.  So of
two logins one open record is left. -/
theorem sessions_balance_after_blocking :
    ∃ (passages : List Passage) (before : List Entry) (state : State) (ann bob : Session),
      Journal .lenient (.start .epoch Token.unaryId) passages state ∧
      passages.map (·.entry) = before ++
        [⟨.epoch, .login "ann" "p", .ok (.session ann)⟩,
          ⟨.epoch, .login "bob" "p", .ok (.session bob)⟩,
          ⟨.epoch, .deactivate 1, .ok (.count 1)⟩, ⟨.epoch, .purge, .ok (.count 1)⟩] ∧
      ann.account.id = 1 ∧ bob.account.id = 2 ∧
      state.database.records.map (·.token) = [bob.refreshToken] ∧
      (∀ userId, (passages.map (·.logins userId)).sum =
        state.database.countOpen (·.userId == userId) + (passages.map (·.logouts userId)).sum +
          (passages.map (·.cutOffs userId)).sum + (passages.map (·.lapses userId)).sum) ∧
      state.database.records.length + (passages.map (·.swept)).sum =
        (passages.map (·.openings)).sum := by
  obtain ⟨history, state, ann, bob, hentered⟩ := exists_entered
  obtain ⟨hash, other, -, -, hrows⟩ := hentered.rows
  obtain ⟨before, hhistory⟩ := hentered.entries
  have hcalm := hentered.deployed.twins.undisturbed
  have hhas : state.database.hasAccount 1 = true := by
    rw [hrows]
    rfl
  obtain ⟨hcount, hblocked⟩ := step_deactivate .lenient hcalm .epoch (by decide) hhas
  have hblockedCalm := (hentered.run.snoc .epoch (.deactivate 1)).supplied rfl
  obtain ⟨hswept, hpurged⟩ := step_purge .lenient hblockedCalm.undisturbed .epoch
  rw [hrows] at hcount hblocked
  rw [hblocked] at hswept hpurged
  have hrun := (hentered.run.snoc .epoch (.deactivate 1)).snoc .epoch .purge
  rw [hcount, hswept, hhistory] at hrun
  obtain ⟨passages, hjournal, hentries⟩ := hrun.exists_journal
  refine ⟨passages, before, _, ann, bob, hjournal, ?_, hentered.annServed.user,
    hentered.bobServed.user, ?_, sessions_balance hjournal⟩
  · rw [hentries, List.append_assoc, List.append_assoc]
    rfl
  · rw [hpurged]
    rfl

end AccountSessions
