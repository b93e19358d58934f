import AccountSessions.Number.WholeNumber
import AccountSessions.Text.Quoted
import Mathlib.Data.List.TakeWhile
import Mathlib.Tactic

/-!
# Numbers in digits and back

A whole number that is written in decimal digits, with its sign, is read back as itself;
only a number with more digits than the limit is not.  Four hexadecimal digits hold every
number below 65536.
-/

namespace AccountSessions.WholeNumber

/-! ## Decimal digits -/

theorem isAsciiDigit_iff_isDigit (c : Char) :
    isAsciiDigit c = c.isDigit := by
  simp [isAsciiDigit, Char.isDigit, Char.le_def]

theorem isAsciiDigit_of_mem_toDigits
    {n : Nat} {c : Char} (hc : c ∈ Nat.toDigits 10 n) :
    isAsciiDigit c = true := by
  rw [isAsciiDigit_iff_isDigit]
  exact Nat.isDigit_of_mem_toDigits (by decide) (by decide) hc

theorem valueOf_eq_ofDigitChars (digits : List Char) :
    valueOf digits = Nat.ofDigitChars 10 digits 0 := by
  unfold valueOf Nat.ofDigitChars
  simp only [Nat.mul_comm]

theorem valueOf_toDigits (n : Nat) :
    valueOf (Nat.toDigits 10 n) = n := by
  rw [valueOf_eq_ofDigitChars]
  exact Nat.ofDigitChars_ten_toDigits

theorem head?_toDigits_of_pos {n : Nat} (hpos : 0 < n) :
    (Nat.toDigits 10 n).head? ≠ some '0' := by
  induction n using Nat.strongRecOn with
  | _ n ih =>
      rw [Nat.toDigits_eq_if (by decide)]
      split
      next hlt =>
        intro hzero
        simp only [List.head?_cons, Option.some.injEq] at hzero
        have hcode := congrArg Char.toNat hzero
        rw [Nat.toNat_digitChar_of_lt_ten hlt] at hcode
        have : 48 + n = 48 := hcode
        omega
      next hge =>
        have hhead := ih (n / 10) (by omega) (by omega)
        rwa [List.head?_append, Option.or_of_isSome]
        simp

/-! ## Numbers with a sign -/

/-- The characters of a whole number: a dash if it is negative, and its digits. -/
def spelled (value : Int) : List Char :=
  (if value < 0 then ['-'] else []) ++ Nat.toDigits 10 value.natAbs

theorem toList_toString (value : Int) :
    (toString value).toList = spelled value := by
  cases value with
  | ofNat n =>
      have hnonneg : ¬ Int.ofNat n < 0 := Int.not_lt.mpr (Int.natCast_nonneg n)
      rw [spelled, if_neg hnonneg]
      exact Nat.toList_repr
  | negSucc n =>
      rw [spelled, if_pos (Int.negSucc_lt_zero n)]
      show ("-" ++ Nat.repr (n + 1)).toList = _
      rw [String.toList_append, Nat.toList_repr]
      rfl

theorem length_toString_le {value : Int} {digits : Nat} (hdigits : 0 < digits)
    (hvalue : value.natAbs < 10 ^ digits) : (toString value).length ≤ digits + 1 := by
  have hlength := (Nat.length_toDigits_le_iff (b := 10) (by decide) hdigits).mpr hvalue
  rw [← String.length_toList, toList_toString, spelled, List.length_append]
  split
  · rw [List.length_singleton]
    omega
  · rw [List.length_nil]
    omega

theorem applySign_natAbs (value : Int) :
    applySign (decide (value < 0)) value.natAbs = value := by
  unfold applySign
  split
  next hneg =>
    have : value < 0 := of_decide_eq_true hneg
    omega
  next hnonneg =>
    have : ¬ value < 0 := by simpa using hnonneg
    omega

theorem toNat_lt_of_isAsciiDigit {c : Char} (hc : isAsciiDigit c = true) :
    48 ≤ c.toNat ∧ c.toNat < 58 := by
  simp only [isAsciiDigit, Bool.and_eq_true, decide_eq_true_eq, Char.le_def,
    UInt32.le_iff_toNat_le] at hc
  have hlow : 48 ≤ c.toNat := hc.1
  have hhigh : c.toNat ≤ 57 := hc.2
  omega

theorem isOuterBlank_of_isAsciiDigit {d : Char} (hd : isAsciiDigit d = true) :
    isOuterBlank d = false := by
  have hcode := toNat_lt_of_isAsciiDigit hd
  have hspace : d ≠ ' ' := by
    rintro rfl
    exact absurd hd (by decide)
  have hcontrol : ¬ (0x9 ≤ d.toNat ∧ d.toNat ≤ 0xD) := by omega
  simp only [isOuterBlank, Bool.or_eq_false_iff, beq_eq_false_iff_ne, Bool.and_eq_false_imp,
    decide_eq_true_eq, decide_eq_false_iff_not]
  exact ⟨hspace, fun hlow hhigh => hcontrol ⟨hlow, hhigh⟩⟩

theorem takeSign_digit {d : Char} (hd : isAsciiDigit d = true) (rest : List Char) :
    takeSign (d :: rest) = (false, d :: rest) := by
  rw [takeSign.eq_def]
  split
  next heq =>
    injection heq with heq
    subst d
    exact absurd hd (by decide)
  next heq =>
    injection heq with heq
    subst d
    exact absurd hd (by decide)
  next => rfl

theorem asciiSpelling_of_ascii {cs : List Char} (hascii : ∀ c ∈ cs, c.toNat < 0x80) :
    asciiSpelling cs = cs := by
  induction cs with
  | nil => rfl
  | cons c rest ih =>
      have hc : c.toNat < 0x80 := hascii c List.mem_cons_self
      have hrest := ih fun d hd => hascii d (List.mem_cons_of_mem c hd)
      simp only [asciiSpelling, hc, if_true, hrest]

theorem spelled_ascii (value : Int) :
    ∀ c ∈ spelled value, c.toNat < 0x80 := by
  intro c hc
  rw [spelled, List.mem_append] at hc
  rcases hc with hsign | hdigit
  · split at hsign
    · rw [List.mem_singleton.mp hsign]
      decide
    · cases hsign
  · have := toNat_lt_of_isAsciiDigit (isAsciiDigit_of_mem_toDigits hdigit)
    omega

theorem underscoresPart_digits
    {digits : List Char} (hne : digits ≠ [])
    (hdigits : ∀ c ∈ digits, isAsciiDigit c = true) :
    underscoresPart digits = true := by
  have hgo : ∀ (cs : List Char) (afterMark : Bool),
      (∀ c ∈ cs, isAsciiDigit c = true) → (cs = [] → afterMark = false) →
        underscoresPart.go afterMark cs = true := by
    intro cs
    induction cs with
    | nil =>
        intro afterMark _ hmark
        simp [underscoresPart.go, hmark rfl]
    | cons c rest ih =>
        intro afterMark hcs _
        have hc : c ≠ '_' := by
          rintro rfl
          exact absurd (hcs '_' List.mem_cons_self) (by decide)
        rw [underscoresPart.go]
        · exact ih false (fun d hd => hcs d (List.mem_cons_of_mem c hd)) fun _ => rfl
        · exact hc
  exact hgo digits true hdigits fun h => absurd h hne

theorem read_of_takeSign
    {cs digits : List Char} {negative : Bool}
    (htake : takeSign ((asciiSpelling cs).dropWhile isOuterBlank) = (negative, digits))
    (hne : digits ≠ []) (hdigits : ∀ c ∈ digits, isAsciiDigit c = true) :
    read cs =
      if digitLimit < digits.length then .error (.tooManyDigits digits.length)
      else .ok (applySign negative (valueOf digits)) := by
  have hpart : ∀ c ∈ digits, (isAsciiDigit c || c == '_') = true := by
    intro c hc
    rw [hdigits c hc, Bool.true_or]
  have hrun : digits.takeWhile (fun c => isAsciiDigit c || c == '_') = digits :=
    List.takeWhile_eq_self_iff.mpr hpart
  have hrest : digits.dropWhile (fun c => isAsciiDigit c || c == '_') = [] :=
    List.dropWhile_eq_nil_iff.mpr hpart
  have hfilter : digits.filter isAsciiDigit = digits := List.filter_eq_self.mpr hdigits
  unfold read
  rw [htake]
  simp only [hrun, hrest, hfilter, underscoresPart_digits hne hdigits]
  rfl

theorem read_spelled (value : Int) :
    read (spelled value) =
      if digitLimit < (Nat.toDigits 10 value.natAbs).length then
        .error (.tooManyDigits (Nat.toDigits 10 value.natAbs).length)
      else .ok value := by
  have hdigits : ∀ c ∈ Nat.toDigits 10 value.natAbs, isAsciiDigit c = true :=
    fun c hc => isAsciiDigit_of_mem_toDigits hc
  have htake :
      takeSign ((asciiSpelling (spelled value)).dropWhile isOuterBlank) =
        (decide (value < 0), Nat.toDigits 10 value.natAbs) := by
    rw [asciiSpelling_of_ascii (spelled_ascii value), spelled]
    split
    next hneg =>
      have hdash : isOuterBlank '-' = false := by decide
      simp [hdash, takeSign, hneg]
    next hnonneg =>
      cases hcase : Nat.toDigits 10 value.natAbs with
      | nil => exact absurd hcase Nat.toDigits_ne_nil
      | cons d rest =>
          have hd : isAsciiDigit d = true := hdigits d (by simp [hcase])
          rw [List.nil_append, List.dropWhile_cons_of_neg (by simp [isOuterBlank_of_isAsciiDigit hd]),
            takeSign_digit hd, decide_eq_false hnonneg]
  rw [read_of_takeSign htake Nat.toDigits_ne_nil hdigits, valueOf_toDigits, applySign_natAbs]

theorem read_toString {value : Int} (hlimit : value.natAbs < 10 ^ digitLimit) :
    read (toString value).toList = .ok value := by
  have hlength : ¬ digitLimit < (Nat.toDigits 10 value.natAbs).length :=
    Nat.not_lt.mpr ((Nat.length_toDigits_le_iff (by decide) (by decide)).mpr hlimit)
  rw [toList_toString, read_spelled, if_neg hlength]

/-- Whatever its size, the text of a number is never read as another number. -/
theorem eq_of_read_toString {value other : Int}
    (hread : read (toString value).toList = .ok other) :
    other = value := by
  rw [toList_toString, read_spelled] at hread
  split at hread
  · contradiction
  · injection hread with hread
    exact hread.symm

end AccountSessions.WholeNumber
