import AccountSessions.Proofs.ReachedStates
import AccountSessions.Proofs.Sweeps

/-!
# Lists of sessions

A list of sessions shows the logins of a user that no purge has taken away since, the
latest first.  Numbers that a purge sets free are given out again, but only behind those
that are left, so the numbers in the table always follow the logins; and as long as the
clock does not go back, so do the moments.
-/

namespace AccountSessions

/-! ## Sessions of a history -/

namespace Entry

/-- The record that a login opened, still without its number. -/
def opened? (service : Service) (entry : Entry) : Option SessionRecord :=
  match entry.call, entry.outcome with
  | .login _ _, .ok (.session session) =>
    (entry.moment.add? service.issuer.refreshTtl).map fun expiresAt =>
      ⟨0, session.account.id, session.refreshToken, expiresAt, entry.moment, none⟩
  | _, _ => none

/-- The entry logged the token of the record out or cut its user off. -/
def ends (entry : Entry) (record : SessionRecord) : Bool :=
  match entry.call, entry.outcome with
  | .logout _ token, .ok _ => record.token == token
  | .logoutAll userId, .ok _ => record.userId == userId
  | .deactivate userId, .ok _ => record.userId == userId
  | _, _ => false

def purges (entry : Entry) : Bool :=
  match entry.call, entry.outcome with
  | .purge, .ok _ => true
  | _, _ => false

/-- What the entry makes of a record that was there before; a purge takes it away if it is
spent. -/
def passes (entry : Entry) (record : SessionRecord) : Option SessionRecord :=
  if entry.purges && record.isSpent entry.moment then none
  else if record.isOpen && entry.ends record then
    some { record with revokedAt := some entry.moment }
  else some record

end Entry

/-- What entries leave of a record, one after the other. -/
def SessionRecord.remains (record : SessionRecord) (entries : List Entry) : Option SessionRecord :=
  entries.foldlM (fun kept entry => entry.passes kept) record

/-- The sessions that logins of the history opened and no purge has taken away since, in
the order of the logins. -/
def survivors (service : Service) : List Entry → List SessionRecord
  | [] => []
  | entry :: later =>
    ((entry.opened? service).bind (·.remains later)).toList ++ survivors service later

theorem survivors_concat (service : Service) (history : List Entry) (entry : Entry) :
    survivors service (history ++ [entry]) =
      (survivors service history).filterMap entry.passes ++ (entry.opened? service).toList := by
  induction history with
  | nil =>
      cases hopened : entry.opened? service with
      | none => simp [survivors, hopened]
      | some record => simp [survivors, hopened, SessionRecord.remains]
  | cons first rest ih =>
      have hremains (record : SessionRecord) :
          record.remains (rest ++ [entry]) = (record.remains rest).bind entry.passes := by
        simp [SessionRecord.remains, List.foldlM_append]
      rw [List.cons_append, survivors, survivors, ih, List.filterMap_append, List.append_assoc]
      congr 1
      cases first.opened? service with
      | none => rfl
      | some record =>
          rw [Option.bind_some, Option.bind_some, hremains]
          cases record.remains rest with
          | none => rfl
          | some kept =>
              cases hpasses : entry.passes kept with
              | none => simp [hpasses]
              | some passed => simp [hpasses]

/-! ## What one call does to the table -/

theorem Entry.filterMap_passes
    {entry : Entry} (hpurges : entry.purges = false) (db : Database) :
    db.records.filterMap entry.passes = (db.revokeWhere entry.ends entry.moment).records := by
  rw [Database.revokeWhere, ← List.filterMap_eq_map]
  apply List.filterMap_congr
  intro record _
  rw [Function.comp_apply, passes, hpurges, Bool.false_and, if_neg Bool.false_ne_true]
  exact (apply_ite some _ _ _).symm

theorem Entry.filterMap_passes_of_idle
    {entry : Entry} (hpurges : entry.purges = false) (hends : ∀ record, entry.ends record = false)
    (db : Database) :
    db.records.filterMap entry.passes = db.records := by
  have hnone : db.countOpen entry.ends = 0 :=
    List.countP_eq_zero.mpr fun record _ => by simp [hends]
  rw [filterMap_passes hpurges, Database.revokeWhere_of_countOpen hnone]

theorem Entry.filterMap_passes_of_purges
    {entry : Entry} (hpurges : entry.purges = true) (hends : ∀ record, entry.ends record = false)
    (db : Database) :
    db.records.filterMap entry.passes = (db.sweep entry.moment).records := by
  rw [Database.sweep, ← List.filterMap_eq_filter]
  apply List.filterMap_congr
  intro record _
  rw [passes, hpurges, Bool.true_and, hends, Bool.and_false, if_neg Bool.false_ne_true]
  cases hspent : record.isSpent entry.moment with
  | true | false => simp [Option.guard, hspent]

section Effects

variable {service : Service} {ids : TokenIds} {now : Moment} {db later : Database} {call : Call}
  {outcome : Except Failure Answer}
  (heffect : Effect service ids now db call outcome later)

include heffect

/-- Each row goes its own way, and a login adds a row with the next number. -/
theorem Effect.records :
    later.records = db.records.filterMap (Entry.mk now call outcome).passes ++
      (((Entry.mk now call outcome).opened? service).map fun record =>
        { record with id := Database.nextId (db.records.map (·.id)) }).toList := by
  cases heffect with
  | registered hadd =>
      rw [Entry.filterMap_passes_of_idle rfl (fun _ => rfl), Database.records_of_addAccount? hadd]
      exact (List.append_nil _).symm
  | verified | activated =>
      rw [Entry.filterMap_passes_of_idle rfl (fun _ => rfl)]
      exact (List.append_nil _).symm
  | loggedIn hfound hfits hoffers hissue hexpires hadd =>
      obtain ⟨record, rfl, rfl, rfl, -⟩ := Database.exists_of_addRecord? hadd
      rw [Entry.filterMap_passes_of_idle rfl (fun _ => rfl), Entry.opened?, hexpires]
      rfl
  | loggedOut | loggedOutAll | deactivated =>
      rw [Entry.filterMap_passes rfl]
      exact (List.append_nil _).symm
  | purged =>
      rw [Entry.filterMap_passes_of_purges rfl (fun _ => rfl)]
      exact (List.append_nil _).symm
  | read hreads =>
      cases call with
      | refresh | validateToken | listSessions =>
          rw [Entry.filterMap_passes_of_idle rfl (fun _ => rfl)]
          exact (List.append_nil _).symm
      | _ => cases hreads
  | refused =>
      cases call with
      | _ =>
          rw [Entry.filterMap_passes_of_idle rfl (fun _ => rfl)]
          exact (List.append_nil _).symm

end Effects

/-! ## The table against the history -/

theorem Entry.continues_of_passes
    {entry : Entry} {record kept : SessionRecord} (hpasses : entry.passes record = some kept) :
    kept.Continues record := by
  unfold passes at hpasses
  split at hpasses
  · cases hpasses
  · split at hpasses
    next hended =>
      obtain rfl := Option.some.inj hpasses
      have hopen := (Bool.and_eq_true_iff.mp hended).1
      exact ⟨rfl, ⟨rfl, rfl, rfl, rfl⟩, .inr (Option.isNone_iff_eq_none.mp hopen)⟩
    next =>
      obtain rfl := Option.some.inj hpasses
      exact .refl record

/-- What becomes of a record does not depend on its number. -/
theorem Entry.passes_unnumbered (entry : Entry) (record : SessionRecord) :
    entry.passes record.unnumbered = (entry.passes record).map SessionRecord.unnumbered := by
  have hspent : record.unnumbered.isSpent entry.moment = record.isSpent entry.moment := rfl
  have hopen : record.unnumbered.isOpen = record.isOpen := rfl
  have hends : entry.ends record.unnumbered = entry.ends record := rfl
  rw [passes, passes, hspent, hopen, hends]
  split
  · rfl
  · split
    · rfl
    · rfl

theorem Entry.unnumbered_of_opened?
    {service : Service} {entry : Entry} {record : SessionRecord}
    (hopened : entry.opened? service = some record) :
    record.unnumbered = record ∧ record.createdAt = entry.moment := by
  unfold opened? at hopened
  split at hopened
  next session _ _ =>
    obtain ⟨expires, -, rfl⟩ := Option.map_eq_some_iff.mp hopened
    exact ⟨rfl, rfl⟩
  next => cases hopened

theorem Run.survivors_eq
    {service : Service} {begin : Moment} {ids : Nat → String} {history : List Entry}
    {state : State} (hrun : Run service (State.start begin ids) history state) :
    state.database.records.map SessionRecord.unnumbered = survivors service history := by
  refine hrun.invariant rfl
    (fun history db => db.records.map SessionRecord.unnumbered = survivors service history) rfl ?_
  rintro history db entry later hprevious ⟨_, heffect, -⟩
  rw [heffect.records, List.map_append, survivors_concat, ← hprevious]
  congr 1
  · rw [List.map_filterMap, List.filterMap_map]
    apply List.filterMap_congr
    intro record _
    exact (entry.passes_unnumbered record).symm
  · cases hopened : entry.opened? service with
    | none => rfl
    | some record =>
        have hsame := (Entry.unnumbered_of_opened? hopened).1
        exact congrArg (fun row => [row]) hsame

/-! ## The order of a list -/

/-- The number and the moment of the record come before those of the other. -/
structure SessionRecord.Precedes (record other : SessionRecord) : Prop where
  id : record.id < other.id
  createdAt : record.createdAt.micros ≤ other.createdAt.micros

/-- The table is in the order of the logins, all of them in the past. -/
structure InLoginOrder (history : List Entry) (db : Database) : Prop where
  rows : db.records.Pairwise SessionRecord.Precedes
  past : ∀ record ∈ db.records, ∃ entry ∈ history, record.createdAt = entry.moment

theorem Effect.inLoginOrder
    {service : Service} {ids : TokenIds} {history : List Entry} {entry : Entry}
    {db later : Database}
    (heffect : Effect service ids entry.moment db entry.call entry.outcome later)
    (horder : InOrder (history ++ [entry])) (hrows : InLoginOrder history db) :
    InLoginOrder (history ++ [entry]) later := by
  obtain ⟨-, hlatest⟩ := horder.of_concat
  have hkept {record : SessionRecord} (hmem : record ∈ db.records.filterMap entry.passes) :
      ∃ old ∈ db.records, record.Continues old := by
    obtain ⟨old, hold, hpasses⟩ := List.mem_filterMap.mp hmem
    exact ⟨old, hold, Entry.continues_of_passes hpasses⟩
  have hadded {record : SessionRecord}
      (hmem : record ∈ ((entry.opened? service).map fun record =>
        { record with id := Database.nextId (db.records.map (·.id)) }).toList) :
      record.id = Database.nextId (db.records.map (·.id)) ∧ record.createdAt = entry.moment := by
    obtain ⟨opened, hopened, rfl⟩ := Option.map_eq_some_iff.mp (Option.mem_toList.mp hmem)
    exact ⟨rfl, (Entry.unnumbered_of_opened? hopened).2⟩
  have hrecords := heffect.records
  constructor
  · rw [hrecords]
    refine List.pairwise_append.mpr ⟨?_, ?_, ?_⟩
    · refine hrows.rows.filterMap entry.passes ?_
      intro first second hprecedes kept hfirst other hsecond
      have hkept := Entry.continues_of_passes hfirst
      have hother := Entry.continues_of_passes hsecond
      refine ⟨?_, ?_⟩
      · rw [hkept.id, hother.id]
        exact hprecedes.id
      · rw [hkept.login.createdAt, hother.login.createdAt]
        exact hprecedes.createdAt
    · exact Option.pairwise_toList
    · intro record hrecord new hnew
      obtain ⟨old, hold, hcontinues⟩ := hkept hrecord
      obtain ⟨hid, hcreated⟩ := hadded hnew
      refine ⟨?_, ?_⟩
      · rw [hcontinues.id, hid]
        exact Database.lt_nextId (List.mem_map_of_mem hold)
      · obtain ⟨earlier, hearlier, hmoment⟩ := hrows.past old hold
        rw [hcontinues.login.createdAt, hmoment, hcreated]
        exact hlatest earlier hearlier
  · intro record hmem
    rw [hrecords] at hmem
    rcases List.mem_append.mp hmem with hold | hnew
    · obtain ⟨old, hold, hcontinues⟩ := hkept hold
      obtain ⟨earlier, hearlier, hmoment⟩ := hrows.past old hold
      exact ⟨earlier, List.mem_append_left _ hearlier, hcontinues.login.createdAt.trans hmoment⟩
    · exact ⟨entry, List.mem_append_right _ (List.mem_singleton.mpr rfl), (hadded hnew).2⟩

theorem Run.inLoginOrder
    {service : Service} {begin : Moment} {ids : Nat → String} {history : List Entry}
    {state : State} (hrun : Run service (State.start begin ids) history state)
    (horder : InOrder history) :
    InLoginOrder history state.database := by
  refine hrun.invariant rfl (fun history db => InOrder history → InLoginOrder history db) ?_ ?_
    horder
  · exact fun _ => ⟨.nil, fun _ hmem => (List.not_mem_nil hmem).elim⟩
  · rintro history db entry later hprevious ⟨_, heffect, -⟩ horder
    exact heffect.inLoginOrder horder (hprevious horder.of_concat.1)

namespace SessionRecord

variable {first second : SessionRecord}

theorem newerFirst_iff :
    newerFirst first second = true ↔ second.createdAt.micros < first.createdAt.micros ∨
      first.createdAt.micros = second.createdAt.micros ∧ second.id ≤ first.id := by
  simp [newerFirst]

theorem newerFirst_trans
    (first second third : SessionRecord) (hfirst : newerFirst first second = true)
    (hsecond : newerFirst second third = true) :
    newerFirst first third = true := by
  rw [newerFirst_iff] at hfirst hsecond ⊢
  omega

theorem newerFirst_total (first second : SessionRecord) :
    (newerFirst first second || newerFirst second first) = true := by
  rw [Bool.or_eq_true, newerFirst_iff, newerFirst_iff]
  omega

theorem id_eq_of_newerFirst
    (hfirst : newerFirst first second = true) (hsecond : newerFirst second first = true) :
    first.id = second.id := by
  rw [newerFirst_iff] at hfirst hsecond
  omega

theorem Precedes.newerFirst (hprecedes : first.Precedes second) :
    SessionRecord.newerFirst second first = true := by
  have hid := hprecedes.id
  have hcreated := hprecedes.createdAt
  rw [newerFirst_iff]
  omega

end SessionRecord

/-- A list of a table in the order of the logins is the table backwards. -/
theorem Database.recordsOf_eq_reverse
    {db : Database} (hrows : db.records.Pairwise SessionRecord.Precedes) (userId : Int) :
    db.recordsOf userId = (db.records.filter (·.userId == userId)).reverse := by
  have howned : (db.records.filter (·.userId == userId)).Pairwise SessionRecord.Precedes :=
    hrows.filter _
  have hids : ((db.records.filter (·.userId == userId)).map (·.id)).Nodup :=
    List.pairwise_map.mpr (howned.imp fun hprecedes => Int.ne_of_lt hprecedes.id)
  have hbackwards : (db.records.filter (·.userId == userId)).reverse.Pairwise
      fun first second => SessionRecord.newerFirst first second = true :=
    List.pairwise_reverse.mpr (howned.imp SessionRecord.Precedes.newerFirst)
  have hsorted := List.pairwise_mergeSort SessionRecord.newerFirst_trans
    SessionRecord.newerFirst_total (db.records.filter (·.userId == userId))
  have hperm := List.mergeSort_perm (db.records.filter (·.userId == userId))
    SessionRecord.newerFirst
  refine List.Perm.eq_of_pairwise ?_ hsorted hbackwards (hperm.trans (List.reverse_perm _).symm)
  intro first second hfirst hsecond hnewer holder
  exact List.inj_on_of_nodup_map hids (hperm.mem_iff.mp hfirst) (List.mem_reverse.mp hsecond)
    (SessionRecord.id_eq_of_newerFirst hnewer holder)

/-! ## Lists -/

/-- After every run whose clock does not go back the list of a user holds the sessions that
logins of the user have opened and no purge has taken away, each of them once and as it
has become since, the latest login first. -/
theorem listSessions_newest_first
    {service : Service} {begin : Moment} {ids : Nat → String} {history : List Entry}
    {state : State} (hrun : Run service (State.start begin ids) history state)
    (horder : InOrder history) (now : Moment) :
    (∀ account ∈ state.database.accounts, Store.fitsColumn account.id = true) ∧
    ∀ userId, Store.fitsColumn userId = true →
      ∃ records, (exec (Service.listSessions userId) { state with now := now }).1 = .ok records ∧
        records.map SessionRecord.unnumbered =
          ((survivors service history).filter (·.userId == userId)).reverse ∧
        records.Pairwise (fun newer older => older.Precedes newer) ∧
        ∀ record, record ∈ records ↔ record ∈ state.database.records ∧ record.userId = userId := by
  refine ⟨(hrun.reached.fitting rfl rfl).fits, fun userId hfits => ?_⟩
  have hundisturbed : ({ state with now } : State).disturbances = [] :=
    (hrun.supplied rfl).undisturbed
  have hrows := (hrun.inLoginOrder horder).rows
  obtain ⟨later, hexec, -⟩ := Store.yields_listRecords hundisturbed hfits
  have hlist := Database.recordsOf_eq_reverse hrows userId
  refine ⟨state.database.recordsOf userId, congrArg Prod.fst hexec, ?_, ?_, ?_⟩
  · rw [hlist, List.map_reverse, ← hrun.survivors_eq, List.filter_map]
    rfl
  · rw [hlist]
    exact List.pairwise_reverse.mpr (hrows.filter _)
  · intro record
    rw [hlist, List.mem_reverse, List.mem_filter, beq_iff_eq]

/-- Ann logs in, bob does and ann does again, all at one moment.  Her list has her later
session before the earlier one and none of his. -/
theorem listSessions_newest_first_for_ann :
    ∃ (history : List Entry) (state : State) (bob first second : Session)
        (newest oldest : SessionRecord),
      Run .lenient (State.start .epoch Token.unaryId) history state ∧ InOrder history ∧
      (∃ before, history = before ++
        [⟨.epoch, .login "ann" "p", .ok (.session first)⟩,
          ⟨.epoch, .login "bob" "p", .ok (.session bob)⟩,
          ⟨.epoch, .login "ann" "p", .ok (.session second)⟩]) ∧
      state.database.records.map (·.token) =
        [first.refreshToken, bob.refreshToken, second.refreshToken] ∧
      (exec (Service.listSessions 1) { state with now := .epoch }).1 = .ok [newest, oldest] ∧
      newest.token = second.refreshToken ∧ oldest.token = first.refreshToken ∧
      newest.createdAt = oldest.createdAt := by
  obtain ⟨history, state, first, bob, hentered⟩ := exists_entered
  obtain ⟨second, -, henters⟩ := Service.lenient_enters hentered.deployed hentered.annEnrolled
    (by decide)
  obtain ⟨before, hhistory⟩ := hentered.entries
  obtain ⟨hash, other, -, -, hrows⟩ := hentered.rows
  have hrun := hentered.run.snoc .epoch (.login "ann" "p")
  have hrecords : (step .lenient state .epoch (.login "ann" "p")).2.database.records =
      [⟨1, 1, first.refreshToken, { micros := 604800000000 }, .epoch, none⟩,
        ⟨2, 2, bob.refreshToken, { micros := 604800000000 }, .epoch, none⟩,
        ⟨3, 1, second.refreshToken, { micros := 604800000000 }, .epoch, none⟩] := by
    rw [henters.database, hrows]
    rfl
  rw [henters.outcome] at hrun
  generalize (step .lenient state .epoch (.login "ann" "p")).2 = later at hrun hrecords
  have horder : InOrder (history ++ [⟨.epoch, .login "ann" "p", .ok (.session second)⟩]) :=
    .of_moments .epoch (by simp [hentered.moments])
  obtain ⟨-, hlists⟩ := listSessions_newest_first hrun horder .epoch
  obtain ⟨records, hexec, hlisted, -, -⟩ := hlists 1 (by decide)
  rw [← hrun.survivors_eq, hrecords] at hlisted
  obtain ⟨newest, rest, rfl, hnewest, hrest⟩ := List.map_eq_cons_iff.mp hlisted
  obtain ⟨oldest, none, rfl, holdest, hnone⟩ := List.map_eq_cons_iff.mp hrest
  obtain rfl := List.map_eq_nil_iff.mp hnone
  refine ⟨_, later, bob, first, second, newest, oldest, hrun, horder, ⟨before, ?_⟩, ?_, hexec,
    congrArg SessionRecord.token hnewest, congrArg SessionRecord.token holdest, ?_⟩
  · rw [hhistory]
    simp
  · rw [hrecords]
    rfl
  · exact (congrArg SessionRecord.createdAt hnewest).trans
      (congrArg SessionRecord.createdAt holdest).symm

end AccountSessions
