import AccountSessions.Time.Calendar
import Mathlib.Data.Set.Card
import Mathlib.Order.Interval.Set.Nat
import Mathlib.Tactic

/-!
# Days of the calendar

A year begins where the years before it end, and so does a month of a year.  Every day
lies between the beginnings of one year and the next, and there between those of one
month and the next.  So the date of a day counts back to the day, dates are in the order
of their days, and the day of a date is the number of the dates before it.
-/

namespace AccountSessions.Calendar

/-- Two numbers that lie each on a step of a staircase are in the order of the steps, and on
one step in the order of their distances from its edge. -/
theorem lt_iff_of_steps
    {edge : Nat → Nat} (hmono : Monotone edge) {step next number other : Nat}
    (hnumber : edge step ≤ number ∧ number < edge (step + 1))
    (hother : edge next ≤ other ∧ other < edge (next + 1)) :
    number < other ↔ step < next ∨ step = next ∧ number - edge step < other - edge next := by
  rcases Nat.lt_trichotomy step next with hbelow | rfl | habove
  · have hedges : edge (step + 1) ≤ edge next := hmono hbelow
    omega
  · omega
  · have hedges : edge (next + 1) ≤ edge step := hmono habove
    omega

/-! ## Years -/

/-- The first day behind year 9999. -/
def dayLimit : Nat := 3652059

theorem isLeap_eq_true {year : Nat} :
    isLeap year = true ↔ 4 ∣ year ∧ (¬ 100 ∣ year ∨ 400 ∣ year) := by
  simp [isLeap, Nat.dvd_iff_mod_eq_zero]

theorem daysBeforeYear_eq (year : Nat) :
    daysBeforeYear year =
      (year - 1) * 365 + (year - 1) / 4 - (year - 1) / 100 + (year - 1) / 400 := rfl

theorem daysBeforeYear_mono : Monotone daysBeforeYear := by
  refine monotone_nat_of_le_succ fun year => ?_
  rw [daysBeforeYear_eq, daysBeforeYear_eq]
  omega

theorem daysBeforeYear_succ {year : Nat} (hyear : 1 ≤ year) :
    daysBeforeYear (year + 1) = daysBeforeYear year + if isLeap year then 366 else 365 := by
  obtain ⟨past, rfl⟩ := Nat.exists_eq_add_of_le' hyear
  have hcenturies : past / 100 ≤ past / 4 := Nat.div_le_div_left (by decide) (by decide)
  rw [daysBeforeYear_eq, daysBeforeYear_eq, Nat.add_sub_cancel, Nat.add_sub_cancel, Nat.succ_div,
    Nat.succ_div, Nat.succ_div]
  simp only [isLeap_eq_true]
  by_cases hfour : 4 ∣ past + 1
  · by_cases hcentury : 100 ∣ past + 1
    · by_cases hage : 400 ∣ past + 1
      · simp only [hfour, hcentury, hage, if_true, not_true, or_true, and_true]
        omega
      · simp only [hfour, hcentury, hage, if_true, if_false, not_true, or_false, and_false]
        omega
    · have hage : ¬ 400 ∣ past + 1 := fun hage => hcentury (Nat.dvd_trans (by decide) hage)
      simp only [hfour, hcentury, hage, if_true, if_false, not_false_eq_true, true_or, and_true]
      omega
  · have hcentury : ¬ 100 ∣ past + 1 := fun hcentury => hfour (Nat.dvd_trans (by decide) hcentury)
    have hage : ¬ 400 ∣ past + 1 := fun hage => hfour (Nat.dvd_trans (by decide) hage)
    simp only [hfour, hcentury, hage, if_false, false_and]
    omega

/-- The mean length of a year is near enough to the lengths of all. -/
theorem yearOf_spec (ordinal : Nat) :
    daysBeforeYear (yearOf ordinal) ≤ ordinal ∧ ordinal < daysBeforeYear (yearOf ordinal + 1) := by
  unfold yearOf
  dsimp only
  split_ifs with habove hbelow
  · refine ⟨habove, ?_⟩
    rw [daysBeforeYear_eq]
    omega
  · rw [daysBeforeYear_eq] at hbelow
    rw [daysBeforeYear_eq, daysBeforeYear_eq]
    omega
  · exact ⟨Nat.le_of_not_lt hbelow, Nat.lt_of_not_le habove⟩

theorem yearOf_bounds {ordinal : Nat} (hordinal : ordinal < dayLimit) :
    1 ≤ yearOf ordinal ∧ yearOf ordinal ≤ 9999 := by
  obtain ⟨hlow, hhigh⟩ := yearOf_spec ordinal
  constructor
  · by_contra hearly
    have hfirst : daysBeforeYear (yearOf ordinal + 1) ≤ daysBeforeYear 1 :=
      daysBeforeYear_mono (by omega)
    have hzero : daysBeforeYear 1 = 0 := rfl
    omega
  · by_contra hlate
    have hlast : daysBeforeYear 10000 ≤ daysBeforeYear (yearOf ordinal) :=
      daysBeforeYear_mono (by omega)
    have hlimit : daysBeforeYear 10000 = dayLimit := rfl
    omega

/-! ## Months -/

theorem daysInMonth_le (year month : Nat) : daysInMonth year month ≤ 31 := by
  unfold daysInMonth
  split_ifs <;> omega

theorem daysBeforeMonth_succ (year : Nat) {month : Nat} (hmonth : 1 ≤ month) :
    daysBeforeMonth year (month + 1) = daysBeforeMonth year month + daysInMonth year month := by
  obtain ⟨earlier, rfl⟩ := Nat.exists_eq_add_of_le' hmonth
  simp [daysBeforeMonth, List.range_succ]

theorem daysBeforeMonth_mono (year : Nat) : Monotone (daysBeforeMonth year) := by
  refine monotone_nat_of_le_succ fun month => ?_
  rcases Nat.eq_zero_or_pos month with rfl | hpos
  · exact Nat.le_refl 0
  · rw [daysBeforeMonth_succ year hpos]
    exact Nat.le_add_right _ _

/-- The twelve months make up the year. -/
theorem daysBeforeMonth_thirteen (year : Nat) :
    daysBeforeMonth year 13 = if isLeap year then 366 else 365 := by
  cases hleap : isLeap year with
  | true | false => simp [daysBeforeMonth, daysInMonth, List.range_succ, hleap]

theorem monthFrom_spec
    {year dayOfYear more month : Nat} (hlow : daysBeforeMonth year month ≤ dayOfYear)
    (hhigh : dayOfYear < daysBeforeMonth year (month + more + 1)) :
    let found := monthFrom year dayOfYear more month
    month ≤ found ∧ found ≤ month + more ∧
      daysBeforeMonth year found ≤ dayOfYear ∧ dayOfYear < daysBeforeMonth year (found + 1) := by
  induction more generalizing month with
  | zero => exact ⟨Nat.le_refl _, Nat.le_refl _, hlow, hhigh⟩
  | succ more ih =>
      rw [monthFrom]
      split
      next hnow => exact ⟨Nat.le_refl _, Nat.le_add_right _ _, hlow, hnow⟩
      next hlater =>
        have hsum : month + (more + 1) + 1 = month + 1 + more + 1 := by omega
        rw [hsum] at hhigh
        obtain ⟨hfrom, hto, hspec⟩ := ih (Nat.le_of_not_lt hlater) hhigh
        exact ⟨by omega, by omega, hspec⟩

/-! ## Dates -/

namespace Date

/-- The date stands in the calendar. -/
structure Proper (date : Date) : Prop where
  year : 1 ≤ date.year ∧ date.year ≤ 9999
  month : 1 ≤ date.month ∧ date.month ≤ 12
  day : 1 ≤ date.day ∧ date.day ≤ daysInMonth date.year date.month

def dayOfYear (date : Date) : Nat :=
  daysBeforeMonth date.year date.month + (date.day - 1)

theorem ordinal_eq (date : Date) :
    date.ordinal = daysBeforeYear date.year + date.dayOfYear :=
  Nat.add_assoc _ _ _

namespace Proper

variable {date other : Date} (hdate : date.Proper)

include hdate

theorem dayOfYear_bounds :
    daysBeforeMonth date.year date.month ≤ date.dayOfYear ∧
      date.dayOfYear < daysBeforeMonth date.year (date.month + 1) := by
  have hday := hdate.day
  rw [daysBeforeMonth_succ date.year hdate.month.1, dayOfYear]
  omega

theorem ordinal_bounds :
    daysBeforeYear date.year ≤ date.ordinal ∧
      date.ordinal < daysBeforeYear (date.year + 1) := by
  have hmonth : daysBeforeMonth date.year (date.month + 1) ≤ daysBeforeMonth date.year 13 :=
    daysBeforeMonth_mono date.year (Nat.succ_le_succ hdate.month.2)
  rw [daysBeforeMonth_thirteen] at hmonth
  have hday := hdate.dayOfYear_bounds.2
  rw [daysBeforeYear_succ hdate.year.1, ordinal_eq]
  omega

theorem ordinal_lt_iff (hother : other.Proper) :
    date.ordinal < other.ordinal ↔
      date.year < other.year ∨ date.year = other.year ∧
        (date.month < other.month ∨ date.month = other.month ∧ date.day < other.day) := by
  rw [lt_iff_of_steps daysBeforeYear_mono hdate.ordinal_bounds hother.ordinal_bounds]
  refine or_congr_right (and_congr_right fun hyear => ?_)
  have hmonth := hother.dayOfYear_bounds
  rw [← hyear] at hmonth
  rw [ordinal_eq, ordinal_eq, Nat.add_sub_cancel_left, Nat.add_sub_cancel_left,
    lt_iff_of_steps (daysBeforeMonth_mono date.year) hdate.dayOfYear_bounds hmonth]
  refine or_congr_right (and_congr_right fun hsame => ?_)
  have hfirst := hdate.day.1
  have hsecond := hother.day.1
  rw [dayOfYear, dayOfYear, hyear, hsame]
  omega

end Proper

section OfOrdinal

variable {ordinal : Nat} (hordinal : ordinal < dayLimit)

include hordinal

theorem month_ofOrdinal :
    let date := ofOrdinal ordinal
    let past := ordinal - daysBeforeYear date.year
    1 ≤ date.month ∧ date.month ≤ 12 ∧
      daysBeforeMonth date.year date.month ≤ past ∧
      past < daysBeforeMonth date.year (date.month + 1) := by
  have hyear := (yearOf_bounds hordinal).1
  obtain ⟨hlow, hhigh⟩ := yearOf_spec ordinal
  rw [daysBeforeYear_succ hyear, ← daysBeforeMonth_thirteen] at hhigh
  have hpast : ordinal - daysBeforeYear (yearOf ordinal) < daysBeforeMonth (yearOf ordinal) 13 := by
    omega
  exact monthFrom_spec (Nat.zero_le _) hpast

theorem proper_ofOrdinal : (ofOrdinal ordinal).Proper := by
  obtain ⟨hfirst, hlast, hlow, hhigh⟩ := month_ofOrdinal hordinal
  refine ⟨yearOf_bounds hordinal, ⟨hfirst, hlast⟩, Nat.le_add_left 1 _, ?_⟩
  rw [daysBeforeMonth_succ _ hfirst] at hhigh
  change ordinal - daysBeforeYear (ofOrdinal ordinal).year -
    daysBeforeMonth (ofOrdinal ordinal).year (ofOrdinal ordinal).month + 1 ≤ _
  omega

theorem ordinal_ofOrdinal : (ofOrdinal ordinal).ordinal = ordinal := by
  obtain ⟨-, -, hlow, -⟩ := month_ofOrdinal hordinal
  have hyear : daysBeforeYear (ofOrdinal ordinal).year ≤ ordinal := (yearOf_spec ordinal).1
  rw [ordinal_eq, dayOfYear]
  change _ + (_ + (ordinal - daysBeforeYear (ofOrdinal ordinal).year -
    daysBeforeMonth (ofOrdinal ordinal).year (ofOrdinal ordinal).month + 1 - 1)) = ordinal
  omega

end OfOrdinal

/-! ## Days counted -/

/-- The order of dates: by the year, in it by the month, and there by the day. -/
def Before (earlier date : Date) : Prop :=
  earlier.year < date.year ∨ earlier.year = date.year ∧
    (earlier.month < date.month ∨ earlier.month = date.month ∧ earlier.day < date.day)

/-- The number of the dates of the calendar before a date. -/
noncomputable def daysPast (date : Date) : Nat :=
  {earlier : Date | earlier.Proper ∧ earlier.Before date}.ncard

namespace Proper

variable {date other : Date} (hdate : date.Proper)

include hdate

theorem ordinal_lt_dayLimit : date.ordinal < dayLimit := by
  have hyear : daysBeforeYear (date.year + 1) ≤ daysBeforeYear 10000 :=
    daysBeforeYear_mono (Nat.succ_le_succ hdate.year.2)
  have hlimit : daysBeforeYear 10000 = dayLimit := rfl
  have hordinal := hdate.ordinal_bounds.2
  omega

theorem eq_of_ordinal_eq (hother : other.Proper) (hsame : date.ordinal = other.ordinal) :
    date = other := by
  have hbelow := hdate.ordinal_lt_iff hother
  have habove := hother.ordinal_lt_iff hdate
  obtain ⟨year, month, day⟩ := date
  obtain ⟨year', month', day'⟩ := other
  simp only [mk.injEq]
  dsimp only at hbelow habove
  omega

theorem ofOrdinal_ordinal : ofOrdinal date.ordinal = date :=
  (proper_ofOrdinal hdate.ordinal_lt_dayLimit).eq_of_ordinal_eq hdate
    (ordinal_ofOrdinal hdate.ordinal_lt_dayLimit)

/-- The ordinal of a date counts the dates before it. -/
theorem ordinal_eq_daysPast : date.ordinal = date.daysPast := by
  have hlimit {ordinal : Nat} (hordinal : ordinal < date.ordinal) : ordinal < dayLimit :=
    hordinal.trans hdate.ordinal_lt_dayLimit
  have hdates : {earlier : Date | earlier.Proper ∧ earlier.Before date} =
      ofOrdinal '' Set.Iio date.ordinal := by
    ext earlier
    constructor
    · rintro ⟨hearlier, hbefore⟩
      exact ⟨earlier.ordinal, (hearlier.ordinal_lt_iff hdate).mpr hbefore,
        hearlier.ofOrdinal_ordinal⟩
    · rintro ⟨ordinal, hordinal, rfl⟩
      have hproper := proper_ofOrdinal (hlimit hordinal)
      refine ⟨hproper, (hproper.ordinal_lt_iff hdate).mp ?_⟩
      rwa [ordinal_ofOrdinal (hlimit hordinal)]
  have hinjective : Set.InjOn ofOrdinal (Set.Iio date.ordinal) := by
    intro first hfirst second hsecond hsame
    rw [← ordinal_ofOrdinal (hlimit hfirst), hsame, ordinal_ofOrdinal (hlimit hsecond)]
  rw [daysPast, hdates, hinjective.ncard_image, Set.ncard_Iio_nat]

end Proper

end Date

/-- The leap day of year 2000. -/
example : Date.ofOrdinal 730178 = ⟨2000, 2, 29⟩ := by decide

end AccountSessions.Calendar
