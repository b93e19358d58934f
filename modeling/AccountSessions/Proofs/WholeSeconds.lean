import AccountSessions.Proofs.Numerals
import AccountSessions.Token.Issuer
import Mathlib.Tactic

/-!
# Whole seconds through a rounded quotient

The issuer divides microseconds by a million in binary64 and drops the fraction, while
the reader of a token floors its clock.  A quotient below `2 ^ j` is rounded on a grid of
at least `2 ^ (53 - j)` steps to the unit.  As long as half a step is less than a
microsecond the rounding reaches no further whole second, and both counts agree; beyond,
the issuer may be one second ahead, but never behind.
-/

namespace AccountSessions

namespace Binary64

/-! ## The nearest whole number -/

theorem le_nearest (num den : Nat) : num / den ≤ nearest num den := by
  unfold nearest
  dsimp only
  split_ifs <;> omega

theorem nearest_le (num den : Nat) : nearest num den ≤ num / den + 1 := by
  unfold nearest
  dsimp only
  split_ifs <;> omega

theorem two_mul_nearest_le (num : Nat) {den : Nat} (hden : 0 < den) :
    2 * (den * nearest num den) ≤ 2 * num + den := by
  have hdiv := Nat.div_add_mod num den
  have hmod := Nat.mod_lt num hden
  unfold nearest
  dsimp only
  split_ifs with hbelow habove
  · omega
  · rw [Nat.mul_add, Nat.mul_one]
    omega
  · -- A tie: the remainder is half the denominator.
    have hparity : num / den % 2 ≤ 1 := by omega
    have hstep : den * (num / den % 2) ≤ den := by
      calc
        den * (num / den % 2) ≤ den * 1 := Nat.mul_le_mul_left den hparity
        _ = den := Nat.mul_one den
    rw [Nat.mul_add]
    omega

/-! ## The order of a quotient -/

theorem scale_natCast (num den k : Nat) : scale num den (k : Int) = (num * 2 ^ k, den) := by
  unfold scale
  rw [if_neg (by omega), Int.natAbs_natCast, Nat.shiftLeft_eq]

theorem scale_neg_natCast (num den : Nat) {k : Nat} (hk : 0 < k) :
    scale num den (-(k : Int)) = (num, den * 2 ^ k) := by
  unfold scale
  rw [if_pos (by omega), Int.natAbs_neg, Int.natAbs_natCast, Nat.shiftLeft_eq]

theorem binaryOrder_lt
    {num den j : Nat} (hnum : 0 < num) (hlt : num < 2 ^ j * den) :
    binaryOrder num den < j := by
  have hlow : 2 ^ Nat.log2 num ≤ num := Nat.log2_self_le (by omega)
  have hhigh : den < 2 ^ (Nat.log2 den + 1) := Nat.lt_log2_self
  have hguess : Nat.log2 num ≤ Nat.log2 den + j := by
    by_contra hlarge
    have hpow : 2 ^ j * 2 ^ (Nat.log2 den + 1) ≤ 2 ^ Nat.log2 num := by
      rw [← pow_add]
      exact Nat.pow_le_pow_right (by decide) (by omega)
    have hprod : 2 ^ j * den < 2 ^ j * 2 ^ (Nat.log2 den + 1) :=
      Nat.mul_lt_mul_of_pos_left hhigh (Nat.two_pow_pos j)
    omega
  unfold binaryOrder
  dsimp only
  rcases Nat.lt_or_ge (Nat.log2 num) (Nat.log2 den + j) with hless | hgreater
  · split_ifs <;> omega
  · -- The estimate is the bound itself, and the test lowers it by one.
    have heq : (Nat.log2 num : Int) - Nat.log2 den = (j : Int) := by omega
    have htest : (scale num den (-(j : Int))).1 < (scale num den (-(j : Int))).2 := by
      rcases Nat.eq_zero_or_pos j with rfl | hj
      · simpa [scale] using hlt
      · rw [scale_neg_natCast num den hj]
        show num < den * 2 ^ j
        rwa [Nat.mul_comm]
    rw [heq, if_pos htest]
    omega

/-! ## The quotient without its fraction -/

theorem wholePart_neg_natCast (mantissa k : Nat) :
    wholePart mantissa (-(k : Int)) = mantissa / 2 ^ k := by
  unfold wholePart ratio
  rcases Nat.eq_zero_or_pos k with rfl | hk
  · simp [scale]
  · rw [scale_neg_natCast mantissa 1 hk]
    simp

theorem wholePart_carry (k : Nat) :
    wholePart (2 ^ 52) (-(k : Int) + 1) = 2 ^ 53 / 2 ^ k := by
  rcases Nat.eq_zero_or_pos k with rfl | hk
  · decide
  · have hexponent : -(k : Int) + 1 = -((k - 1 : Nat) : Int) := by omega
    have hpow : 2 ^ k = 2 * 2 ^ (k - 1) := by
      rw [← pow_succ', Nat.sub_add_cancel hk]
    rw [hexponent, wholePart_neg_natCast, hpow, show 2 ^ 53 = 2 * 2 ^ 52 by decide,
      Nat.mul_div_mul_left _ _ (by decide)]

/-- A quotient below `2 ^ j` is rounded on a grid that divides the unit into at least
`2 ^ (53 - j)` steps. -/
theorem truncate?_ofRatio
    (negative : Bool) {num den j : Nat} (hden : 0 < den) (hj : j ≤ 53)
    (hlt : num < 2 ^ j * den) :
    ∃ k, 53 ≤ k + j ∧
      (ofRatio negative num den).truncate? =
        some (WholeNumber.applySign negative (nearest (num * 2 ^ k) den / 2 ^ k)) := by
  rcases Nat.eq_zero_or_pos num with rfl | hnum
  · refine ⟨1074, by omega, ?_⟩
    have hzero : nearest (0 * 2 ^ 1074) den = 0 := by
      rw [Nat.zero_mul]
      unfold nearest
      simp [hden]
    have hexponent : (-1074 : Int) = -((1074 : Nat) : Int) := rfl
    rw [hzero, Nat.zero_div, ofRatio, if_pos rfl, truncate?, hexponent, wholePart_neg_natCast,
      Nat.zero_div]
    rfl
  · have horder := binaryOrder_lt hnum hlt
    obtain ⟨k, hk⟩ : ∃ k : Nat, max (binaryOrder num den - 52) (-1074) = -(k : Int) :=
      ⟨(-max (binaryOrder num den - 52) (-1074)).toNat, by omega⟩
    have hfull : 1 <<< 53 = 2 ^ 53 := rfl
    have hhalf : 1 <<< 52 = 2 ^ 52 := rfl
    refine ⟨k, by omega, ?_⟩
    rw [ofRatio, if_neg (by omega)]
    simp only [hk, Int.neg_neg, scale_natCast, hfull, hhalf]
    by_cases hcarry : nearest (num * 2 ^ k) den = 2 ^ 53
    · simp only [hcarry, if_true]
      rw [if_neg (by omega), truncate?, wholePart_carry]
      rfl
    · simp only [hcarry, if_false]
      rw [if_neg (by omega), truncate?, wholePart_neg_natCast]
      rfl

theorem nearest_div_bounds (num k : Nat) {den : Nat} (hden : 0 < den) :
    num / den ≤ nearest (num * 2 ^ k) den / 2 ^ k ∧
      nearest (num * 2 ^ k) den / 2 ^ k ≤ num / den + 1 := by
  have hpow : 0 < 2 ^ k := Nat.two_pow_pos k
  have hmod := Nat.div_add_mod num den
  constructor
  · rw [Nat.le_div_iff_mul_le hpow]
    refine Nat.le_trans ?_ (le_nearest _ _)
    rw [Nat.le_div_iff_mul_le hden, Nat.mul_right_comm]
    exact Nat.mul_le_mul_right _ (Nat.div_mul_le_self num den)
  · have hquotient : num * 2 ^ k / den < (num / den + 1) * 2 ^ k := by
      rw [Nat.div_lt_iff_lt_mul hden, Nat.mul_right_comm]
      exact Nat.mul_lt_mul_of_pos_right (Nat.lt_mul_of_div_lt (Nat.lt_succ_self _) hden) hpow
    have hnear := nearest_le (num * 2 ^ k) den
    rw [Nat.div_le_iff_le_mul_add_pred hpow]
    rw [Nat.mul_comm (2 ^ k)]
    omega

/-- Where half a step is less than one unit of the numerator, rounding reaches no further
whole number. -/
theorem nearest_div_eq (num : Nat) {den k : Nat} (hden : 0 < den) (hgrid : den < 2 ^ (k + 1)) :
    nearest (num * 2 ^ k) den / 2 ^ k = num / den := by
  have hpow : 0 < 2 ^ k := Nat.two_pow_pos k
  refine Nat.le_antisymm ?_ (nearest_div_bounds num k hden).1
  rw [← Nat.lt_succ_iff, Nat.div_lt_iff_lt_mul hpow]
  -- The numerator is at least one unit below the next multiple of the denominator.
  have hnum : num + 1 ≤ (num / den + 1) * den :=
    Nat.lt_mul_of_div_lt (Nat.lt_succ_self _) hden
  have hscaled : num * 2 ^ k + 2 ^ k ≤ (num / den + 1) * den * 2 ^ k := by
    calc
      num * 2 ^ k + 2 ^ k = (num + 1) * 2 ^ k := by rw [Nat.add_mul, Nat.one_mul]
      _ ≤ (num / den + 1) * den * 2 ^ k := Nat.mul_le_mul_right _ hnum
  have hnear := two_mul_nearest_le (num * 2 ^ k) hden
  have hgrid' : den < 2 * 2 ^ k := by rwa [← pow_succ']
  have hbound : den * nearest (num * 2 ^ k) den < den * ((num / den + 1) * 2 ^ k) := by
    calc
      den * nearest (num * 2 ^ k) den < (num / den + 1) * den * 2 ^ k := by omega
      _ = den * ((num / den + 1) * 2 ^ k) := by ring
  exact Nat.lt_of_mul_lt_mul_left hbound

theorem truncatedQuotient_eq
    (num : Int) {den j : Nat} (hden : 0 < den) (hj : j ≤ 53) (hlt : num.natAbs < 2 ^ j * den) :
    ∃ k, 53 ≤ k + j ∧
      truncatedQuotient num den =
        WholeNumber.applySign (decide (num < 0)) (nearest (num.natAbs * 2 ^ k) den / 2 ^ k) := by
  obtain ⟨k, hk, htruncate⟩ := truncate?_ofRatio (decide (num < 0)) hden hj hlt
  refine ⟨k, hk, ?_⟩
  rw [truncatedQuotient, htruncate]

end Binary64

/-! ## Years -/

namespace Moment

/-- The microsecond with which a year begins, counted from 1970. -/
def yearStart (year : Nat) : Int :=
  earliestMicros + (Calendar.daysBeforeYear year * Duration.microsPerDay : Nat)

/-- The moment lies between the beginning of 1970 and the end of 2500. -/
structure InEra (moment : Moment) : Prop where
  notBefore : yearStart 1970 ≤ moment.micros
  before : moment.micros < yearStart 2501

theorem yearStart_1970 : yearStart 1970 = 0 := by decide

theorem yearStart_2501 : yearStart 2501 = 16756761600000000 := by decide

theorem yearStart_9999 : yearStart 9999 = 253370764800000000 := by decide

theorem second_eq_ediv (moment : Moment) : moment.second = moment.micros / 1000000 :=
  Int.fdiv_eq_ediv_of_nonneg _ (by decide)

def startOfSecond (moment : Moment) : Moment where
  micros := moment.second * Duration.microsPerSecond
  inCalendar := by
    have hrange := moment.inCalendar
    rw [second_eq_ediv]
    unfold earliestMicros latestMicros Duration.microsPerSecond at *
    omega

end Moment

/-! ## The issuer's clock and the reader's -/

namespace Token

/-- Until the year 2514 the rounded quotient keeps the whole second. -/
theorem epochSeconds_eq_second {moment : Moment} (hera : moment.InEra) :
    epochSeconds moment = moment.second := by
  have hlow := hera.notBefore
  have hhigh := hera.before
  rw [Moment.yearStart_1970] at hlow
  rw [Moment.yearStart_2501] at hhigh
  have hlt : moment.micros.natAbs < 2 ^ 34 * Duration.microsPerSecond := by
    rw [Duration.microsPerSecond]
    omega
  obtain ⟨k, hk, hquotient⟩ :=
    Binary64.truncatedQuotient_eq moment.micros (by decide) (by decide) hlt
  have hgrid : Duration.microsPerSecond < 2 ^ (k + 1) := by
    calc
      Duration.microsPerSecond < 2 ^ 20 := by decide
      _ ≤ 2 ^ (k + 1) := Nat.pow_le_pow_right (by decide) (by omega)
  rw [epochSeconds, hquotient, Binary64.nearest_div_eq _ (by decide) hgrid,
    decide_eq_false (by omega), Moment.second_eq_ediv, WholeNumber.applySign,
    Duration.microsPerSecond]
  simp only [Bool.false_eq_true, if_false]
  omega

/-- From 1970 to the end of the calendar the rounded quotient is at most one second
ahead. -/
theorem second_le_epochSeconds {moment : Moment} (hlow : Moment.yearStart 1970 ≤ moment.micros) :
    moment.second ≤ epochSeconds moment ∧ epochSeconds moment ≤ moment.second + 1 := by
  have hhigh := moment.inCalendar.2
  rw [Moment.yearStart_1970] at hlow
  rw [latestMicros] at hhigh
  have hlt : moment.micros.natAbs < 2 ^ 53 * Duration.microsPerSecond := by
    rw [Duration.microsPerSecond]
    omega
  obtain ⟨k, -, hquotient⟩ :=
    Binary64.truncatedQuotient_eq moment.micros (by decide) (by decide) hlt
  have hbounds := @Binary64.nearest_div_bounds moment.micros.natAbs k Duration.microsPerSecond
    (by decide)
  rw [epochSeconds, hquotient, decide_eq_false (by omega), Moment.second_eq_ediv,
    WholeNumber.applySign]
  rw [Duration.microsPerSecond] at hbounds ⊢
  simp only [Bool.false_eq_true, if_false]
  omega

theorem natAbs_epochSeconds_lt_pow (moment : Moment) : (epochSeconds moment).natAbs < 10 ^ 13 := by
  have hrange := moment.inCalendar
  rw [earliestMicros, latestMicros] at hrange
  have hlt : moment.micros.natAbs < 2 ^ 53 * Duration.microsPerSecond := by
    rw [Duration.microsPerSecond]
    omega
  obtain ⟨k, -, hquotient⟩ :=
    Binary64.truncatedQuotient_eq moment.micros (by decide) (by decide) hlt
  have hbounds := @Binary64.nearest_div_bounds moment.micros.natAbs k Duration.microsPerSecond
    (by decide)
  rw [epochSeconds, hquotient, WholeNumber.applySign]
  rw [Duration.microsPerSecond] at hbounds ⊢
  split <;> omega

theorem natAbs_epochSeconds_lt (moment : Moment) :
    (epochSeconds moment).natAbs < 10 ^ WholeNumber.digitLimit :=
  Nat.lt_of_lt_of_le (natAbs_epochSeconds_lt_pow moment)
    (Nat.pow_le_pow_right (by decide) (by decide))

end Token

end AccountSessions
