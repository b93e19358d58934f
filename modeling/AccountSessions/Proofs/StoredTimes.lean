import AccountSessions.Proofs.SessionCalls
import AccountSessions.Proofs.SessionViews
import AccountSessions.Time.ZonedTime

/-!
# Stored times

A time that a clock shows names an instant: the days of the calendar before its date and
the time of its day, less the distance of the clock from universal time.  The texts that
times are stored as are in the order of these instants.  A text reads back as the instant
of its time, and so does a session record that is created to expire then.
-/

namespace AccountSessions

theorem CivilTime.Proper.ordinalMicros_lt {time : CivilTime} (htime : time.Proper) :
    time.ordinalMicros < Calendar.dayLimit * 86400000000 := by
  have hday : time.date.ordinal < Calendar.dayLimit := htime.date.ordinal_lt_dayLimit
  obtain ⟨-, hhour, hminute, hsecond, hmicrosecond⟩ := htime
  rw [ordinalMicros_eq]
  unfold Calendar.dayLimit at *
  omega

namespace ZonedTime

/-! ## Instants -/

/-- The microseconds from the beginning of year 1 in universal time. -/
noncomputable def instant (time : ZonedTime) : Int :=
  ((((time.civil.date.daysPast * 24 + time.civil.hour) * 60 + time.civil.minute) * 60 +
    time.civil.second) * 1000000 + time.civil.microsecond : Nat) - time.offset.micros

/-- The civil time stands in the calendar and on the clock, which is less than a day from
universal time. -/
structure Proper (time : ZonedTime) : Prop where
  civil : time.civil.Proper
  offset : CivilTime.isOffset time.offset = true

/-- A clock of universal time shows the instant in the years of the calendar. -/
def InCalendar (time : ZonedTime) : Prop :=
  ∃ shown : CivilTime, shown.Proper ∧ (ZonedTime.mk shown none).instant = time.instant

theorem instant_eq {time : ZonedTime} (hcivil : time.civil.Proper) :
    time.instant = time.civil.ordinalMicros - time.offset.micros := by
  rw [instant, ← hcivil.date.ordinal_eq_daysPast, CivilTime.ordinalMicros_eq]

theorem instant_universal (moment : Moment) :
    (universal moment).instant = moment.ordinalMicros := by
  rw [instant_eq (CivilTime.proper_ofMoment moment)]
  exact (Int.sub_zero _).trans (congrArg Nat.cast (CivilTime.ordinalMicros_ofMoment moment))

section Moment?

variable {time : ZonedTime} (hcivil : time.civil.Proper)

include hcivil

theorem moment?_eq_some_iff {moment : Moment} :
    time.moment? = some moment ↔ (universal moment).instant = time.instant := by
  have hmicros := moment.micros_eq
  rw [moment?, CivilTime.toMoment?, Moment.ofMicros?_eq_some, instant_universal,
    instant_eq hcivil]
  omega

theorem exists_moment?_iff : (∃ moment, time.moment? = some moment) ↔ time.InCalendar := by
  simp only [moment?_eq_some_iff hcivil]
  constructor
  · rintro ⟨moment, hinstant⟩
    refine ⟨CivilTime.ofMoment moment, CivilTime.proper_ofMoment moment, ?_⟩
    rw [← hinstant]
    rfl
  · rintro ⟨shown, hshown, hinstant⟩
    have hlimit := hshown.ordinalMicros_lt
    have hcalendar : earliestMicros ≤ earliestMicros + shown.ordinalMicros ∧
        earliestMicros + shown.ordinalMicros ≤ latestMicros := by
      unfold earliestMicros latestMicros
      unfold Calendar.dayLimit at hlimit
      omega
    refine ⟨⟨_, hcalendar⟩, ?_⟩
    rw [← hinstant, instant_universal, instant_eq hshown]
    unfold Moment.ordinalMicros
    simp only [offset, Option.getD_none]
    omega

end Moment?

end ZonedTime

theorem MomentText.restore_stored (moment : Moment) :
    restore (some (stored moment)) = .ok (some moment) := by
  have hnonempty : (stored moment).toList ≠ [] := by
    rw [stored_eq, chars_eq]
    simp [digits_succ]
  unfold restore
  split
  next hnone => cases hnone
  next hempty =>
    rw [Option.some.inj hempty] at hnonempty
    exact absurd rfl hnonempty
  next text _ htext =>
    rw [← Option.some.inj htext, read_stored]
    rfl

/-! ## Expiries -/

namespace Database

variable {db added : Database} {userId id : Int} {token : String} {expires now : Moment}
  (hadd : db.addRecord? userId token expires now = some (id, added))

include hadd

theorem find?_of_addRecord? (live : SessionRecord → Bool) :
    added.records.find? (fun record => record.token == token && live record) =
      if live ⟨id, userId, token, expires, now, none⟩ then
        some ⟨id, userId, token, expires, now, none⟩
      else none := by
  obtain ⟨record, rfl, rfl, -, -, hnew⟩ := exists_of_addRecord? hadd
  have hold : db.records.find? (fun record => record.token == token && live record) = none := by
    rw [List.find?_eq_none]
    intro old hmem
    simp [hnew old hmem]
  rw [List.find?_append, hold, Option.none_or, List.find?_singleton, beq_self_eq_true,
    Bool.true_and]

theorem record?_of_addRecord? :
    added.record? token = some ⟨id, userId, token, expires, now, none⟩ := by
  have hfound := find?_of_addRecord? hadd fun _ => true
  simpa only [record?, Bool.and_true, if_true] using hfound

theorem liveRecord?_of_addRecord? (moment : Moment) :
    added.liveRecord? token moment =
      if moment.micros < expires.micros then some ⟨id, userId, token, expires, now, none⟩
      else none := by
  have hfound := find?_of_addRecord? hadd (·.isLive moment)
  simpa [liveRecord?, SessionRecord.isLive, SessionRecord.isOpen, Moment.before] using hfound

end Database

namespace Store

/-- The record of the token expires at the instant of a time, which its row has the text of,
and can be used until then. -/
structure Expires (state : State) (token : String) (time : ZonedTime) (record : SessionRecord) :
    Prop where
  found : (exec (findRecord token) state).1 = .ok (some record)
  instant : (ZonedTime.universal record.expiresAt).instant = time.instant
  text : time.stored? = some (SessionRow.ofRecord record).expiresAt
  row : (SessionRow.ofRecord record).read = .ok record
  live : (exec (liveRecord token) state).1 =
    .ok (if (ZonedTime.universal state.now).instant < time.instant then some record else none)

theorem exists_added_of_createRecord
    {state later : State} (hundisturbed : state.disturbances = []) {userId id : Int}
    {token : String} {expiresAt : Moment}
    (hcreated : exec (createRecord userId token expiresAt) state = (.ok id, later)) :
    state.database.addRecord? userId token expiresAt state.now = some (id, later.database) ∧
      later.now = state.now ∧ later.disturbances = [] := by
  by_cases hfits : fitsColumn userId = true
  · cases hadd : state.database.addRecord? userId token expiresAt state.now with
    | none =>
        obtain ⟨log, hexec⟩ := exec_createRecord_taken hundisturbed hfits hadd
        rw [hexec] at hcreated
        cases hcreated
    | some row =>
        obtain ⟨number, added⟩ := row
        obtain ⟨log, hexec⟩ := exec_createRecord (disturbance?_of_undisturbed hundisturbed _) hfits hadd
        rw [hexec] at hcreated
        cases hcreated
        exact ⟨rfl, rfl, hundisturbed⟩
  · rw [exec_createRecord_overflow hundisturbed hfits] at hcreated
    cases hcreated

theorem expires_of_createRecord
    {state later : State} (hundisturbed : state.disturbances = []) {userId id : Int}
    {token : String} {time : ZonedTime} (hcivil : time.civil.Proper) {moment : Moment}
    (hmoment : time.moment? = some moment)
    (hcreated : exec (createRecord userId token moment) state = (.ok id, later)) :
    Expires later token time ⟨id, userId, token, moment, state.now, none⟩ := by
  obtain ⟨hadd, hnow, hcalm⟩ := exists_added_of_createRecord hundisturbed hcreated
  have hinstant := (ZonedTime.moment?_eq_some_iff hcivil).mp hmoment
  have hbefore : later.now.micros < moment.micros ↔
      (ZonedTime.universal later.now).instant < time.instant := by
    rw [← hinstant, ZonedTime.instant_universal, ZonedTime.instant_universal,
      later.now.micros_eq, moment.micros_eq]
    omega
  constructor
  · obtain ⟨_, hfound, -⟩ := yields_findRecord hcalm token
    rw [hfound, Database.record?_of_addRecord? hadd]
  · exact hinstant
  · rw [ZonedTime.stored?, hmoment]
    rfl
  · exact SessionRow.read_ofRecord _
  · obtain ⟨_, hfound, -⟩ := yields_liveRecord hcalm token
    rw [hfound, Database.liveRecord?_of_addRecord? hadd]
    simp only [hbefore]

end Store

/-! ## The order of texts -/

namespace ZonedTime

/-- The texts of times are in the order of their instants.  A text reads back as the instant
of its time, and a record that is created to expire then does so. -/
theorem stored_in_order
    {first second : ZonedTime} (hfirst : first.Proper) (hsecond : second.Proper)
    (hshown : first.InCalendar) (hshown' : second.InCalendar) :
    ∃ text other moment,
      first.stored? = some text ∧ second.stored? = some other ∧
      (text < other ↔ first.instant < second.instant) ∧
      (text = other ↔ first.instant = second.instant) ∧
      MomentText.restore (some text) = .ok (some moment) ∧
      (universal moment).instant = first.instant ∧
      first.moment? = some moment ∧
      ∀ state : State, state.disturbances = [] → ∀ userId token id later,
        exec (Store.createRecord userId token moment) state = (.ok id, later) →
        Store.Expires later token first ⟨id, userId, token, moment, state.now, none⟩ := by
  obtain ⟨moment, hmoment⟩ := (exists_moment?_iff hfirst.civil).mpr hshown
  obtain ⟨next, hnext⟩ := (exists_moment?_iff hsecond.civil).mpr hshown'
  have hinstant := (moment?_eq_some_iff hfirst.civil).mp hmoment
  have hinstant' := (moment?_eq_some_iff hsecond.civil).mp hnext
  have hmicros := moment.micros_eq
  have hmicros' := next.micros_eq
  refine ⟨MomentText.stored moment, MomentText.stored next, moment, ?_, ?_, ?_, ?_,
    MomentText.restore_stored moment, hinstant, hmoment, ?_⟩
  · rw [stored?, hmoment, Option.map_some]
  · rw [stored?, hnext, Option.map_some]
  · rw [MomentText.stored_lt_iff, ← hinstant, ← hinstant', instant_universal, instant_universal]
    omega
  · rw [MomentText.stored_inj, ← hinstant, ← hinstant', instant_universal, instant_universal]
    constructor
    · rintro rfl
      rfl
    · intro hsame
      exact Moment.ext (by omega)
  · intro state hundisturbed userId token id later hcreated
    exact Store.expires_of_createRecord hundisturbed hfirst.civil hmoment hcreated

/-- The last microsecond of an hour east of universal time, and the hour behind it on a
clock of universal time.  A session of the first user lasts until the former. -/
theorem stored_in_order_across_zones :
    let first : ZonedTime := ⟨⟨2024, 2, 29, 23, 59, 59, 999999⟩, some (.ofSeconds 3600)⟩
    let second : ZonedTime := ⟨⟨2024, 2, 29, 23, 0, 0, 0⟩, none⟩
    let ann : NewAccount := ⟨some "ann", some "a@b.org", some "hash", some "Ann", false, true⟩
    let state := Store.after (.start .epoch) [(.epoch, .createAccount ann)]
    first.Proper ∧ second.Proper ∧ first.InCalendar ∧ second.InCalendar ∧
      first.instant < second.instant ∧
      ∃ text other, first.stored? = some text ∧ second.stored? = some other ∧ text < other ∧
      ∃ moment later record,
        exec (Store.createRecord 1 "token" moment) state = (.ok 1, later) ∧
        Store.Expires later "token" first record := by
  intro first second ann state
  have hfirst : first.Proper :=
    ⟨⟨⟨by decide, by decide, by decide⟩, by decide, by decide, by decide, by decide⟩, by decide⟩
  have hsecond : second.Proper :=
    ⟨⟨⟨by decide, by decide, by decide⟩, by decide, by decide, by decide, by decide⟩, by decide⟩
  have hmoment : first.moment? = some { micros := 1709247599999999 } := by decide +kernel
  have hmoment' : second.moment? = some { micros := 1709247600000000 } := by decide +kernel
  have hshown : first.InCalendar := (exists_moment?_iff hfirst.civil).mp ⟨_, hmoment⟩
  have hshown' : second.InCalendar := (exists_moment?_iff hsecond.civil).mp ⟨_, hmoment'⟩
  have hbefore : first.instant < second.instant := by
    rw [instant_eq hfirst.civil, instant_eq hsecond.civil]
    decide +kernel
  obtain ⟨text, other, moment, htext, hother, horder, -, -, -, -, hexpires⟩ :=
    stored_in_order hfirst hsecond hshown hshown'
  have hcalm : state.disturbances = [] := Store.undisturbed_after rfl _
  obtain ⟨added, hadd⟩ :
      ∃ added, state.database.addRecord? 1 "token" moment state.now = some (1, added) :=
    ⟨_, rfl⟩
  obtain ⟨log, hcreated⟩ := Store.exec_createRecord (Store.disturbance?_of_undisturbed hcalm _) (by decide) hadd
  exact ⟨hfirst, hsecond, hshown, hshown', hbefore, text, other, htext, hother,
    horder.mpr hbefore, moment, _, _, hcreated, hexpires state hcalm _ _ _ _ hcreated⟩

end ZonedTime

end AccountSessions
