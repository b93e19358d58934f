import AccountSessions.Proofs.CalendarDays
import AccountSessions.Proofs.Digits
import AccountSessions.Time.MomentText
import Mathlib.Data.String.Basic

/-!
# Stored moments

The order of stored texts is the order of moments, and a stored text reads back as the
moment it was written for.  Every field has a fixed width, so the order of texts is that
of the fields from the year down to the microsecond, and the fields of a moment count
back to it.
-/

namespace AccountSessions

/-! ## Civil times -/

namespace CivilTime

def date (time : CivilTime) : Calendar.Date :=
  ⟨time.year, time.month, time.day⟩

def fields (time : CivilTime) : List Nat :=
  [time.year, time.month, time.day, time.hour, time.minute, time.second, time.microsecond]

/-- The time stands in the calendar and on the clock. -/
structure Proper (time : CivilTime) : Prop where
  date : time.date.Proper
  hour : time.hour < 24
  minute : time.minute < 60
  second : time.second < 60
  microsecond : time.microsecond < 1000000

namespace Proper

variable {time other : CivilTime} (htime : time.Proper)

include htime

theorem ordinalMicros_lt_iff (hother : other.Proper) :
    time.ordinalMicros < other.ordinalMicros ↔ time.fields < other.fields := by
  have hbelow := htime.date.ordinal_lt_iff hother.date
  have habove := hother.date.ordinal_lt_iff htime.date
  obtain ⟨-, hhour, hminute, hsecond, hmicrosecond⟩ := htime
  obtain ⟨-, hhour', hminute', hsecond', hmicrosecond'⟩ := hother
  simp only [CivilTime.date] at hbelow habove
  simp only [fields, List.cons_lt_cons_iff, List.not_lt_nil, and_false, or_false]
  unfold ordinalMicros
  omega

end Proper

theorem ordinalMicros_eq (time : CivilTime) :
    time.ordinalMicros =
      (((time.date.ordinal * 24 + time.hour) * 60 + time.minute) * 60 + time.second) * 1000000 +
        time.microsecond := rfl

theorem date_ofOrdinalMicros (micros : Nat) :
    (ofOrdinalMicros micros).date = Calendar.Date.ofOrdinal (micros / 86400000000) := rfl

section OfOrdinalMicros

variable {micros : Nat} (hmicros : micros < Calendar.dayLimit * 86400000000)

include hmicros

theorem proper_ofOrdinalMicros : (ofOrdinalMicros micros).Proper where
  date := Calendar.Date.proper_ofOrdinal (Nat.div_lt_of_lt_mul (Nat.mul_comm .. ▸ hmicros))
  hour := Nat.mod_lt _ (by decide)
  minute := Nat.mod_lt _ (by decide)
  second := Nat.mod_lt _ (by decide)
  microsecond := Nat.mod_lt _ (by decide)

theorem ordinalMicros_ofOrdinalMicros : (ofOrdinalMicros micros).ordinalMicros = micros := by
  have hday : micros / 86400000000 < Calendar.dayLimit :=
    Nat.div_lt_of_lt_mul (Nat.mul_comm .. ▸ hmicros)
  rw [ordinalMicros_eq, date_ofOrdinalMicros, Calendar.Date.ordinal_ofOrdinal hday]
  simp only [ofOrdinalMicros]
  omega

end OfOrdinalMicros

end CivilTime

namespace Moment

/-- The microseconds from the beginning of year 1. -/
def ordinalMicros (moment : Moment) : Nat :=
  (moment.micros - earliestMicros).toNat

theorem micros_eq (moment : Moment) :
    moment.micros = earliestMicros + moment.ordinalMicros := by
  have hlow := moment.inCalendar.1
  unfold ordinalMicros
  omega

theorem ordinalMicros_lt (moment : Moment) :
    moment.ordinalMicros < Calendar.dayLimit * 86400000000 := by
  have hhigh := moment.inCalendar.2
  unfold ordinalMicros Calendar.dayLimit
  unfold earliestMicros latestMicros at *
  omega

end Moment

namespace CivilTime

theorem proper_ofMoment (moment : Moment) : (ofMoment moment).Proper :=
  proper_ofOrdinalMicros moment.ordinalMicros_lt

theorem ordinalMicros_ofMoment (moment : Moment) :
    (ofMoment moment).ordinalMicros = moment.ordinalMicros :=
  ordinalMicros_ofOrdinalMicros moment.ordinalMicros_lt

theorem toMoment?_ofMoment (moment : Moment) : (ofMoment moment).toMoment? ⟨0⟩ = some moment := by
  rw [toMoment?, ordinalMicros_ofMoment, ← moment.micros_eq, Int.sub_zero, Moment.ofMicros?_micros]

end CivilTime

/-! ## Fields of a fixed width -/

namespace MomentText

def digit (value : Nat) : Char :=
  Char.ofNat ('0'.toNat + value % 10)

theorem digit_lt_iff (value other : Nat) : digit value < digit other ↔ value % 10 < other % 10 := by
  have hall : ∀ first < 10, ∀ second < 10,
      Char.ofNat ('0'.toNat + first) < Char.ofNat ('0'.toNat + second) ↔ first < second := by
    decide
  exact hall _ (Nat.mod_lt _ (by decide)) _ (Nat.mod_lt _ (by decide))

theorem digit_eq_iff (value other : Nat) : digit value = digit other ↔ value % 10 = other % 10 := by
  have hall : ∀ first < 10, ∀ second < 10,
      Char.ofNat ('0'.toNat + first) = Char.ofNat ('0'.toNat + second) ↔ first = second := by
    decide
  exact hall _ (Nat.mod_lt _ (by decide)) _ (Nat.mod_lt _ (by decide))

theorem toNat_digit (value : Nat) : (digit value).toNat - '0'.toNat = value % 10 := by
  have hall : ∀ value < 10, (Char.ofNat ('0'.toNat + value)).toNat - '0'.toNat = value := by decide
  exact hall _ (Nat.mod_lt _ (by decide))

theorem digits_succ (width value : Nat) :
    digits (width + 1) value = digit (value / 10 ^ width) :: digits width value := by
  rw [digits, digits, List.range_succ_eq_map, List.map_cons, List.map_map]
  congr 1
  apply List.map_congr_left
  intro place _
  rw [Function.comp_apply, Nat.add_sub_cancel, Nat.succ_eq_add_one, Nat.add_comm place,
    Nat.sub_sub]

theorem digits_zero (value : Nat) : digits 0 value = [] := rfl

@[simp] theorem length_digits (width value : Nat) : (digits width value).length = width := by
  simp [digits]

theorem all_digits (width value : Nat) :
    (digits width value).all WholeNumber.isAsciiDigit = true := by
  rw [digits, List.all_map, List.all_eq_true]
  exact fun place _ => WholeNumber.isAsciiDigit_ofNat (Nat.mod_lt _ (by decide))

theorem foldl_digits (width value start : Nat) :
    (digits width value).foldl (fun value c => value * 10 + (c.toNat - '0'.toNat)) start =
      start * 10 ^ width + value % 10 ^ width := by
  induction width generalizing start with
  | zero => simp [digits, Nat.mod_one]
  | succ width ih =>
      rw [digits_succ, List.foldl_cons, ih, toNat_digit, Nat.mod_pow_succ, Nat.pow_succ]
      ring

theorem valueOf_digits {width value : Nat} (hvalue : value < 10 ^ width) :
    WholeNumber.valueOf (digits width value) = value := by
  rw [WholeNumber.valueOf, foldl_digits, Nat.zero_mul, Nat.zero_add, Nat.mod_eq_of_lt hvalue]

section AddMul

variable {base low low' : Nat} (hlow : low < base) (hlow' : low' < base) (high high' : Nat)

include hlow hlow'

theorem add_mul_lt_iff :
    low + base * high < low' + base * high' ↔ high < high' ∨ high = high' ∧ low < low' := by
  have hmono : Monotone (base * ·) := fun _ _ hle => Nat.mul_le_mul_left base hle
  have hstep {rest : Nat} (hrest : rest < base) (step : Nat) :
      base * step ≤ rest + base * step ∧ rest + base * step < base * (step + 1) := by
    rw [Nat.mul_succ]
    omega
  rw [Calendar.lt_iff_of_steps hmono (hstep hlow high) (hstep hlow' high'),
    Nat.add_sub_cancel_right, Nat.add_sub_cancel_right]

theorem add_mul_eq_iff :
    low + base * high = low' + base * high' ↔ high = high' ∧ low = low' := by
  have hbelow := add_mul_lt_iff hlow hlow' high high'
  have habove := add_mul_lt_iff hlow' hlow high' high
  omega

end AddMul

theorem digits_append_lt_iff_mod (width value other : Nat) (rest last : List Char) :
    digits width value ++ rest < digits width other ++ last ↔
      value % 10 ^ width < other % 10 ^ width ∨
        value % 10 ^ width = other % 10 ^ width ∧ rest < last := by
  induction width with
  | zero => simp [digits, Nat.mod_one]
  | succ width ih =>
      have hlow (number : Nat) : number % 10 ^ width < 10 ^ width :=
        Nat.mod_lt _ (Nat.pow_pos (by decide))
      rw [digits_succ, digits_succ, List.cons_append, List.cons_append, List.cons_lt_cons_iff, ih,
        digit_lt_iff, digit_eq_iff, Nat.mod_pow_succ, Nat.mod_pow_succ,
        add_mul_lt_iff (hlow value) (hlow other), add_mul_eq_iff (hlow value) (hlow other)]
      tauto

theorem digits_append_lt_iff
    {width value other : Nat} (hvalue : value < 10 ^ width) (hother : other < 10 ^ width)
    (rest last : List Char) :
    digits width value ++ rest < digits width other ++ last ↔
      value < other ∨ value = other ∧ rest < last := by
  rw [digits_append_lt_iff_mod, Nat.mod_eq_of_lt hvalue, Nat.mod_eq_of_lt hother]

/-! ## Stored texts -/

/-- The characters that a civil time is stored as. -/
def chars (time : CivilTime) : List Char :=
  seconds time ++ fraction time ++ universal

theorem chars_eq (time : CivilTime) :
    chars time =
      digits 4 time.year ++ '-' :: (digits 2 time.month ++ '-' :: (digits 2 time.day ++
        'T' :: (digits 2 time.hour ++ ':' :: (digits 2 time.minute ++
          ':' :: (digits 2 time.second ++ '.' :: (digits 6 time.microsecond ++ universal)))))) := by
  simp [chars, seconds, fraction]

/-- Every number of a proper time fits its field. -/
structure Fitting (time : CivilTime) : Prop where
  year : time.year < 10 ^ 4
  month : time.month < 10 ^ 2
  day : time.day < 10 ^ 2
  hour : time.hour < 10 ^ 2
  minute : time.minute < 10 ^ 2
  second : time.second < 10 ^ 2
  microsecond : time.microsecond < 10 ^ 6

theorem fitting_of_proper {time : CivilTime} (htime : time.Proper) : Fitting time where
  year := Nat.lt_succ_of_le htime.date.year.2
  month := Nat.lt_of_le_of_lt htime.date.month.2 (by decide)
  day := Nat.lt_of_le_of_lt (htime.date.day.2.trans (Calendar.daysInMonth_le _ _)) (by decide)
  hour := htime.hour.trans (by decide)
  minute := htime.minute.trans (by decide)
  second := htime.second.trans (by decide)
  microsecond := htime.microsecond

theorem chars_lt_iff {time other : CivilTime} (htime : Fitting time) (hother : Fitting other) :
    chars time < chars other ↔ time.fields < other.fields := by
  rw [chars_eq, chars_eq, digits_append_lt_iff htime.year hother.year, List.cons_lt_cons_self,
    digits_append_lt_iff htime.month hother.month, List.cons_lt_cons_self,
    digits_append_lt_iff htime.day hother.day, List.cons_lt_cons_self,
    digits_append_lt_iff htime.hour hother.hour, List.cons_lt_cons_self,
    digits_append_lt_iff htime.minute hother.minute, List.cons_lt_cons_self,
    digits_append_lt_iff htime.second hother.second, List.cons_lt_cons_self,
    digits_append_lt_iff htime.microsecond hother.microsecond]
  simp [CivilTime.fields, List.cons_lt_cons_iff]

theorem stored_eq (moment : Moment) :
    (stored moment).toList = chars (CivilTime.ofMoment moment) :=
  String.toList_ofList

/-- Texts are stored in the order of their moments. -/
theorem stored_lt_iff (first second : Moment) :
    stored first < stored second ↔ first.micros < second.micros := by
  have hfirst := CivilTime.proper_ofMoment first
  have hsecond := CivilTime.proper_ofMoment second
  have hmicros := first.micros_eq
  have hother := second.micros_eq
  rw [String.lt_iff_toList_lt, stored_eq, stored_eq,
    chars_lt_iff (fitting_of_proper hfirst) (fitting_of_proper hsecond),
    ← hfirst.ordinalMicros_lt_iff hsecond, CivilTime.ordinalMicros_ofMoment,
    CivilTime.ordinalMicros_ofMoment]
  omega

/-- The first moment of 1970. -/
example : stored .epoch = "1970-01-01T00:00:00.000000+00:00" := by decide +kernel

/-! ## Reading -/

theorem hasMarks_chars (time : CivilTime) : hasMarks (chars time) = true := by
  simp [hasMarks, chars_eq, digits_succ, digits_zero, universal]

theorem number?_eq_some
    {cs : List Char} {start width value : Nat}
    (hfield : (cs.drop start).take width = digits width value) (hvalue : value < 10 ^ width) :
    number? cs start width = some (value : Int) := by
  rw [number?, hfield, if_pos ⟨length_digits width value, all_digits width value⟩,
    valueOf_digits hvalue]

/-- The numbers that stand in the fields of a text. -/
structure Spells (cs : List Char) (time : CivilTime) : Prop where
  marks : hasMarks cs = true
  year : number? cs 0 4 = some (time.year : Int)
  month : number? cs 5 2 = some (time.month : Int)
  day : number? cs 8 2 = some (time.day : Int)
  hour : number? cs 11 2 = some (time.hour : Int)
  minute : number? cs 14 2 = some (time.minute : Int)
  second : number? cs 17 2 = some (time.second : Int)
  microsecond : number? cs 20 6 = some (time.microsecond : Int)

theorem spells_chars {time : CivilTime} (htime : Fitting time) : Spells (chars time) time := by
  refine ⟨hasMarks_chars time, number?_eq_some ?_ htime.year, number?_eq_some ?_ htime.month,
    number?_eq_some ?_ htime.day, number?_eq_some ?_ htime.hour, number?_eq_some ?_ htime.minute,
    number?_eq_some ?_ htime.second, number?_eq_some ?_ htime.microsecond⟩
  all_goals simp [chars_eq, digits_succ, digits_zero]

end MomentText

namespace CivilTime

theorem wordFault?_eq_none {part : Int} (hlow : 0 ≤ part) (hhigh : part < 1000000) :
    wordFault? part = none := by
  have hfits : WholeNumber.fitsWord part = true := by
    simp only [WholeNumber.fitsWord, Bool.and_eq_true, decide_eq_true_eq]
    omega
  rw [wordFault?, hfits, if_neg (by decide), if_neg (by omega), if_neg (by omega)]

theorem ofParts_of_proper {time : CivilTime} (htime : time.Proper) :
    ofParts time.year time.month time.day time.hour time.minute time.second time.microsecond =
      .ok time := by
  obtain ⟨⟨⟨hyear, hyear'⟩, ⟨hmonth, hmonth'⟩, ⟨hday, hday'⟩⟩, hhour, hminute, hsecond,
    hmicrosecond⟩ := htime
  dsimp only [date] at hyear hyear' hmonth hmonth' hday hday'
  have hdays := Calendar.daysInMonth_le time.year time.month
  have hwords : [(time.year : Int), time.month, time.day, time.hour, time.minute, time.second,
      time.microsecond].findSome? wordFault? = none := by
    rw [List.findSome?_eq_none_iff]
    intro part hpart
    simp only [List.mem_cons, List.not_mem_nil, or_false] at hpart
    exact wordFault?_eq_none (by omega) (by omega)
  rw [ofParts, hwords]
  dsimp only
  rw [ofWords, if_neg (by omega), if_neg (by omega), if_neg, if_neg (by omega), if_neg (by omega),
    if_neg (by omega), if_neg (by omega)]
  · simp only [Int.toNat_natCast]
  · simp only [Int.toNat_natCast]
    omega

end CivilTime

namespace MomentText

/-- What the fields of a text spell, if its marks are in their places. -/
def civil? (cs : List Char) : Option (Except CivilTime.Fault CivilTime) := do
  guard (hasMarks cs)
  let year ← number? cs 0 4
  let month ← number? cs 5 2
  let day ← number? cs 8 2
  let hour ← number? cs 11 2
  let minute ← number? cs 14 2
  let second ← number? cs 17 2
  let microsecond ← number? cs 20 6
  return CivilTime.ofParts year month day hour minute second microsecond

theorem read_eq (text : String) :
    read text =
      match civil? text.toList with
      | none => .error (.malformed text)
      | some (.error fault) => .error (.civil fault)
      | some (.ok time) =>
        match time.toMoment? ⟨0⟩ with
        | some moment => .ok moment
        | none => .error .outside := by
  rfl

theorem Spells.civil?_eq {cs : List Char} {time : CivilTime} (hspells : Spells cs time) :
    civil? cs = some (CivilTime.ofParts time.year time.month time.day time.hour time.minute
      time.second time.microsecond) := by
  have hguard : (guard (hasMarks cs = true) : Option Unit) = some () := if_pos hspells.marks
  simp only [civil?, hguard, hspells.year, hspells.month, hspells.day, hspells.hour,
    hspells.minute, hspells.second, hspells.microsecond, Option.bind_eq_bind, Option.bind_some,
    Option.pure_def]

theorem read_stored (moment : Moment) : read (stored moment) = .ok moment := by
  have hproper := CivilTime.proper_ofMoment moment
  have hcivil := (spells_chars (fitting_of_proper hproper)).civil?_eq
  rw [CivilTime.ofParts_of_proper hproper, ← stored_eq] at hcivil
  -- The moment of a civil time stays behind a name, or the matches below would be computed.
  obtain ⟨place, hplace⟩ : ∃ place : CivilTime → Option Moment,
      ∀ time, time.toMoment? ⟨0⟩ = place time := ⟨_, fun _ => rfl⟩
  have hmoment := (hplace _).symm.trans (CivilTime.toMoment?_ofMoment moment)
  have hread := read_eq (stored moment)
  simp only [hplace] at hread
  rw [hread, hcivil]
  dsimp only
  rw [hmoment]

theorem stored_inj {first second : Moment} : stored first = stored second ↔ first = second := by
  refine ⟨fun hsame => ?_, congrArg stored⟩
  have hread := read_stored first
  rw [hsame, read_stored second] at hread
  exact (Except.ok.inj hread).symm

end MomentText

end AccountSessions
