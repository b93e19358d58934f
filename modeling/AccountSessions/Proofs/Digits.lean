import AccountSessions.Proofs.Numerals

/-!
# Texts of digits

A digit need not be a decimal one: superscripts and circled numbers are digits too.  A
text of digits spells a number if all of them are decimal and they are not too many; else
the decimal digits in front decide which fault is found.
-/

namespace AccountSessions

namespace Text

def isDecimal (c : Char) : Bool :=
  (decimalValue? c).isSome

/-- The decimal digits in front. -/
def decimals (cs : List Char) : List Char :=
  cs.takeWhile isDecimal

theorem not_isDigit_of_isWordBreak {c : Char} (hbreak : isWordBreak c = true) :
    isDigit c = false := by
  have hcodes : ∀ code ∈ [0x9, 0xA, 0xB, 0xC, 0xD, 0x1C, 0x1D, 0x1E, 0x1F, 0x20, 0x85, 0xA0,
      0x1680, 0x2000, 0x2001, 0x2002, 0x2003, 0x2004, 0x2005, 0x2006, 0x2007, 0x2008, 0x2009,
      0x200A, 0x2028, 0x2029, 0x202F, 0x205F, 0x3000], Span.covers digitSpans code = false := by
    decide +kernel
  apply hcodes
  simp only [isWordBreak, isBlank, Bool.or_eq_true, Bool.and_eq_true, decide_eq_true_eq,
    beq_iff_eq] at hbreak
  simp only [List.mem_cons, List.not_mem_nil, or_false]
  omega

theorem ascii_of_isDigit {c : Char} (hdigit : isDigit c = true) (hascii : c.toNat < 0x80) :
    48 ≤ c.toNat ∧ c.toNat < 58 := by
  have hcodes : ∀ code < 0x80, Span.covers digitSpans code = true → 48 ≤ code ∧ code < 58 := by
    decide +kernel
  exact hcodes c.toNat hascii hdigit

theorem decimalValue?_lt {c : Char} {value : Nat} (hvalue : decimalValue? c = some value) :
    value < 10 := by
  unfold decimalValue? at hvalue
  obtain ⟨span, -, rfl⟩ := Option.map_eq_some_iff.mp hvalue
  exact Nat.mod_lt _ (by decide)

theorem decimalValue?_ascii {c : Char} (hlow : 48 ≤ c.toNat) (hhigh : c.toNat < 58) :
    decimalValue? c = some (c.toNat - 48) := by
  have hcodes : ∀ code < 58, 48 ≤ code →
      (decimalSpans.find? (·.contains code)).map (fun span => (code - span.first) % 10) =
        some (code - 48) := by
    decide +kernel
  exact hcodes c.toNat hhigh hlow

end Text

namespace WholeNumber

theorem isAsciiDigit_ofNat {value : Nat} (hvalue : value < 10) :
    isAsciiDigit (Char.ofNat ('0'.toNat + value)) = true := by
  have hall : ∀ value < 10, isAsciiDigit (Char.ofNat ('0'.toNat + value)) = true := by decide
  exact hall value hvalue

theorem asciiSpelling_digit
    {c : Char} (hdigit : Text.isDigit c = true) (rest : List Char) :
    asciiSpelling (c :: rest) =
      match Text.decimalValue? c with
      | some value => Char.ofNat ('0'.toNat + value) :: asciiSpelling rest
      | none => ['?'] := by
  by_cases hascii : c.toNat < 0x80
  · obtain ⟨hlow, hhigh⟩ := Text.ascii_of_isDigit hdigit hascii
    have hcode : '0'.toNat + (c.toNat - 48) = c.toNat := by
      change 48 + (c.toNat - 48) = c.toNat
      omega
    rw [asciiSpelling, if_pos hascii, Text.decimalValue?_ascii hlow hhigh]
    dsimp only
    rw [hcode, Char.ofNat_toNat]
  · have hbreak : ¬ Text.isWordBreak c = true := by
      intro hbreak
      rw [Text.not_isDigit_of_isWordBreak hbreak] at hdigit
      cases hdigit
    cases hvalue : Text.decimalValue? c with
    | none => rw [asciiSpelling, if_neg hascii, if_neg hbreak, hvalue]
    | some value => rw [asciiSpelling, if_neg hascii, if_neg hbreak, hvalue]

/-- Digits are read as far as they are decimal; the first other one leaves a mark. -/
theorem exists_asciiSpelling_digits {cs : List Char} (hdigits : ∀ c ∈ cs, Text.isDigit c = true) :
    ∃ digits, (∀ d ∈ digits, isAsciiDigit d = true) ∧
      digits.length = (Text.decimals cs).length ∧
      asciiSpelling cs =
        digits ++ if cs.all Text.isDecimal then [] else ['?'] := by
  induction cs with
  | nil => exact ⟨[], by simp, rfl, rfl⟩
  | cons c rest ih =>
      have hspelling := asciiSpelling_digit (hdigits c List.mem_cons_self) rest
      cases hvalue : Text.decimalValue? c with
      | none =>
          have hstop : Text.isDecimal c = false := by rw [Text.isDecimal, hvalue]; rfl
          rw [hvalue] at hspelling
          refine ⟨[], by simp, ?_, ?_⟩
          · rw [Text.decimals, List.takeWhile_cons_of_neg (by simp [hstop])]
          · rw [hspelling, List.all_cons, hstop]
            rfl
      | some value =>
          have hgoes : Text.isDecimal c = true := by rw [Text.isDecimal, hvalue]; rfl
          rw [hvalue] at hspelling
          obtain ⟨digits, hascii, hlength, hrest⟩ :=
            ih fun d hd => hdigits d (List.mem_cons_of_mem c hd)
          refine ⟨Char.ofNat ('0'.toNat + value) :: digits, ?_, ?_, ?_⟩
          · intro d hd
            rcases List.mem_cons.mp hd with rfl | hd
            · exact isAsciiDigit_ofNat (Text.decimalValue?_lt hvalue)
            · exact hascii d hd
          · rw [Text.decimals, List.takeWhile_cons_of_pos hgoes, List.length_cons, List.length_cons,
              hlength]
            rfl
          · rw [hspelling, List.all_cons, hgoes, Bool.true_and, List.cons_append, ← hrest]

theorem takeSign_digits_mark
    {digits : List Char} (hdigits : ∀ d ∈ digits, isAsciiDigit d = true) :
    takeSign ((digits ++ ['?']).dropWhile isOuterBlank) = (false, digits ++ ['?']) := by
  cases digits with
  | nil => rfl
  | cons d rest =>
      have hd := hdigits d List.mem_cons_self
      rw [List.cons_append, List.dropWhile_cons_of_neg (by simp [isOuterBlank_of_isAsciiDigit hd]),
        takeSign_digit hd]

theorem read_of_mark
    {cs digits : List Char} (hdigits : ∀ d ∈ digits, isAsciiDigit d = true)
    (hspelling : asciiSpelling cs = digits ++ ['?']) :
    read cs =
      if digitLimit < digits.length then .error (.tooManyDigits digits.length)
      else .error .malformed := by
  have hpart : ∀ c ∈ digits, (isAsciiDigit c || c == '_') = true := by
    intro c hc
    rw [hdigits c hc, Bool.true_or]
  have hrun : (digits ++ ['?']).takeWhile (fun c => isAsciiDigit c || c == '_') = digits := by
    rw [List.takeWhile_append_of_pos hpart]
    exact List.append_nil digits
  have hrest : (digits ++ ['?']).dropWhile (fun c => isAsciiDigit c || c == '_') = ['?'] := by
    rw [List.dropWhile_append_of_pos hpart]
    rfl
  have hfilter : digits.filter isAsciiDigit = digits := List.filter_eq_self.mpr hdigits
  unfold read
  rw [hspelling, takeSign_digits_mark hdigits]
  simp only [hrun, hrest, hfilter]
  by_cases hempty : digits = []
  · rw [hempty]
    rfl
  · rw [underscoresPart_digits hempty hdigits]
    rfl

/-- A text of digits spells a number unless one of them is not decimal or the decimal ones
before it are too many. -/
theorem read_digits
    {cs : List Char} (hne : cs ≠ []) (hdigits : ∀ c ∈ cs, Text.isDigit c = true) :
    ∃ value, read cs =
      if digitLimit < (Text.decimals cs).length then
        .error (.tooManyDigits (Text.decimals cs).length)
      else if cs.all Text.isDecimal then .ok value
      else .error .malformed := by
  obtain ⟨digits, hascii, hlength, hspelling⟩ := exists_asciiSpelling_digits hdigits
  cases hall : cs.all Text.isDecimal with
  | false =>
      rw [hall, if_neg Bool.false_ne_true] at hspelling
      refine ⟨0, ?_⟩
      rw [read_of_mark hascii hspelling, hlength, if_neg Bool.false_ne_true]
  | true =>
      rw [hall, if_pos rfl, List.append_nil] at hspelling
      have hwhole : Text.decimals cs = cs :=
        List.takeWhile_eq_self_iff.mpr (List.all_eq_true.mp hall)
      cases digits with
      | nil =>
          rw [hwhole] at hlength
          exact absurd (List.length_eq_zero_iff.mp hlength.symm) hne
      | cons d rest =>
          have hd := hascii d List.mem_cons_self
          have htake : takeSign ((asciiSpelling cs).dropWhile isOuterBlank) = (false, d :: rest) := by
            rw [hspelling, List.dropWhile_cons_of_neg (by simp [isOuterBlank_of_isAsciiDigit hd]),
              takeSign_digit hd]
          refine ⟨applySign false (valueOf (d :: rest)), ?_⟩
          rw [read_of_takeSign htake (List.cons_ne_nil d rest) hascii, hlength, if_pos rfl]

theorem read_digits_eq_error
    {cs : List Char} (hne : cs ≠ []) (hdigits : ∀ c ∈ cs, Text.isDigit c = true) {fault : Fault} :
    read cs = .error fault ↔
      digitLimit < (Text.decimals cs).length ∧
          fault = .tooManyDigits (Text.decimals cs).length ∨
        (Text.decimals cs).length ≤ digitLimit ∧
          cs.all Text.isDecimal = false ∧ fault = .malformed := by
  obtain ⟨value, hread⟩ := read_digits hne hdigits
  rw [hread]
  by_cases hmany : digitLimit < (Text.decimals cs).length
  · rw [if_pos hmany, Except.error.injEq]
    constructor
    · intro h
      exact .inl ⟨hmany, h.symm⟩
    · rintro (⟨-, rfl⟩ | ⟨hfew, -⟩)
      · rfl
      · exact absurd hmany (Nat.not_lt.mpr hfew)
  · rw [if_neg hmany]
    cases hall : cs.all Text.isDecimal with
    | false =>
        rw [if_neg Bool.false_ne_true, Except.error.injEq]
        constructor
        · intro h
          exact .inr ⟨Nat.not_lt.mp hmany, rfl, h.symm⟩
        · rintro (⟨h, -⟩ | ⟨-, -, rfl⟩)
          · exact absurd h hmany
          · rfl
    | true =>
        rw [if_pos rfl]
        constructor
        · intro h
          cases h
        · rintro (⟨h, -⟩ | ⟨-, h, -⟩)
          · exact absurd h hmany
          · cases h

end WholeNumber

end AccountSessions
