import AccountSessions.Json.Reader
import AccountSessions.Json.Writer
import Mathlib.Tactic

/-!
# Strings in JSON and back

A string of characters is read back from its written form, in which quotes, controls and
everything beyond ASCII are escaped and a character beyond U+FFFF is a pair of escapes.
The reader wants a character behind four hexadecimal digits, which the closing quote
supplies.
-/

namespace AccountSessions

/-! ## Four hexadecimal digits -/

namespace Text.Quoted

theorem hex_one {code : Nat} (hcode : code < 16) : hex 1 code = [Nat.digitChar code] := by
  simp [hex, Nat.toDigits_of_lt_base hcode]

theorem hex_succ (width code : Nat) :
    hex (width + 2) code = hex (width + 1) (code / 16) ++ [Nat.digitChar (code % 16)] := by
  unfold hex
  by_cases hsmall : code < 16
  · have hquotient : code / 16 = 0 := by omega
    rw [Nat.toDigits_of_lt_base hsmall, hquotient, Nat.mod_eq_of_lt hsmall, Nat.toDigits_zero]
    simp [List.replicate_succ']
  · rw [Nat.toDigits_of_base_le (by decide) (by omega)]
    simp

theorem hex_four {code : Nat} (hcode : code < 0x10000) :
    hex 4 code =
      [Nat.digitChar (code / 16 / 16 / 16), Nat.digitChar (code / 16 / 16 % 16),
        Nat.digitChar (code / 16 % 16), Nat.digitChar (code % 16)] := by
  rw [hex_succ, hex_succ, hex_succ, hex_one (by omega)]
  rfl

end Text.Quoted

namespace Json

theorem hexValue?_digitChar {digit : Nat} (hdigit : digit < 16) :
    hexValue? (Nat.digitChar digit) = some digit := by
  have hall : ∀ d < 16, hexValue? (Nat.digitChar d) = some d := by decide
  exact hall digit hdigit

theorem hexCode?_hex {code : Nat} (hcode : code < 0x10000) (next : Char) (rest : List Char) :
    hexCode? (Text.Quoted.hex 4 code ++ next :: rest) = some (code, next :: rest) := by
  rw [Text.Quoted.hex_four hcode]
  have hsum :
      ((code / 16 / 16 / 16 * 16 + code / 16 / 16 % 16) * 16 + code / 16 % 16) * 16 + code % 16 =
        code := by
    omega
  simp only [List.cons_append, List.nil_append, hexCode?, Option.bind_eq_bind,
    hexValue?_digitChar (show code / 16 / 16 / 16 < 16 by omega),
    hexValue?_digitChar (show code / 16 / 16 % 16 < 16 by omega),
    hexValue?_digitChar (show code / 16 % 16 < 16 by omega),
    hexValue?_digitChar (show code % 16 < 16 by omega), Option.bind_some, hsum]
  rfl

/-! ## One code point -/

/-- An escape of a code unit that is no first half of a pair stands for itself. -/
theorem readEscape_unit
    {code : Nat} (hcode : code < 0x10000) (hhigh : isHighSurrogate code = false)
    (opening : List Char) (next : Char) (rest : List Char) :
    readEscape opening ('u' :: (Text.Quoted.hex 4 code ++ next :: rest)) =
      .ok (code, next :: rest) := by
  simp only [readEscape, hexCode?_hex hcode, hhigh]
  rfl

theorem isHighSurrogate_iff (code : Nat) :
    isHighSurrogate code = true ↔ 0xD800 ≤ code ∧ code ≤ 0xDBFF := by
  simp [isHighSurrogate]

theorem isLowSurrogate_iff (code : Nat) :
    isLowSurrogate code = true ↔ 0xDC00 ≤ code ∧ code ≤ 0xDFFF := by
  simp [isLowSurrogate]

/-- Two escapes that spell a pair of surrogates stand for one character. -/
theorem readEscape_pair
    {high low : Nat} (hhigh : isHighSurrogate high = true) (hlow : isLowSurrogate low = true)
    (opening : List Char) (next : Char) (rest : List Char) :
    readEscape opening
        ('u' :: (Text.Quoted.hex 4 high ++ (unitEscape low ++ next :: rest))) =
      .ok (0x10000 + (high - 0xD800) * 0x400 + (low - 0xDC00), next :: rest) := by
  have hhighBound : high < 0x10000 := by
    have := (isHighSurrogate_iff high).mp hhigh
    omega
  have hlowBound : low < 0x10000 := by
    have := (isLowSurrogate_iff low).mp hlow
    omega
  have hpair :
      lowSurrogate? ('\\' :: 'u' :: (Text.Quoted.hex 4 low ++ next :: rest)) =
        some (low, next :: rest) := by
    simp only [lowSurrogate?, hexCode?_hex hlowBound, hlow, if_true]
  simp only [readEscape, unitEscape, List.cons_append, hexCode?_hex hhighBound, hhigh, if_true,
    hpair]

theorem readString_backslash
    {opening escape rest : List Char} {code : Nat}
    (hescape : readEscape opening escape = .ok (code, rest)) (fuel : Nat) (codes : List Nat) :
    readString opening (fuel + 1) codes ('\\' :: escape) =
      readString opening fuel (code :: codes) rest := by
  have hquote : ¬ '\\' = '"' := by decide
  simp only [readString, hquote, if_false, if_true, hescape]

theorem readEscape_letter
    {c : Char} {code : Nat} (hcode : letterEscape? c = some code) (hu : c ≠ 'u')
    (opening rest : List Char) :
    readEscape opening (c :: rest) = .ok (code, rest) := by
  rw [readEscape.eq_def]
  split
  next heq => cases heq
  next heq =>
    injection heq with heq
    exact absurd heq hu
  next heq =>
    injection heq with hhead htail
    subst hhead htail
    rw [hcode]

theorem readString_plainChar
    {c : Char} (hquote : c ≠ '"') (hslash : c ≠ '\\') (hcontrol : ¬ c.toNat < 0x20)
    (opening : List Char) (fuel : Nat) (codes : List Nat) (rest : List Char) :
    readString opening (fuel + 1) codes (c :: rest) =
      readString opening fuel (c.toNat :: codes) rest := by
  rw [readString, if_neg hquote, if_neg hslash, if_neg hcontrol]

theorem toNat_ofNat {code : Nat} (hcode : code < 0xD800) :
    (Char.ofNat code).toNat = code := by
  rw [Char.ofNat, dif_pos (Or.inl hcode)]
  rfl

theorem surrogates_sum {code : Nat} (hcode : 0x10000 ≤ code) :
    0x10000 + (0xD800 + (code - 0x10000) / 0x400 - 0xD800) * 0x400 +
        (0xDC00 + (code - 0x10000) % 0x400 - 0xDC00) =
      code := by
  have := Nat.div_add_mod (code - 0x10000) 0x400
  omega

theorem readString_writeCode
    {code : Nat} (hcode : JsonString.isScalar code = true)
    (opening : List Char) (fuel : Nat) (codes : List Nat) (next : Char) (rest : List Char) :
    readString opening (fuel + 1) codes (writeCode code ++ next :: rest) =
      readString opening fuel (code :: codes) (next :: rest) := by
  have hscalar : code < 0xD800 ∨ 0xDFFF < code ∧ code < 0x110000 := by
    simpa [JsonString.isScalar] using hcode
  have hletter : ∀ c, letterEscape? c = some code → c ≠ 'u' →
      readString opening (fuel + 1) codes (['\\', c] ++ next :: rest) =
        readString opening fuel (code :: codes) (next :: rest) :=
    fun c hc hu => readString_backslash (readEscape_letter hc hu opening _) fuel codes
  fun_cases writeCode code with
  | case1 hquote => exact hletter '"' (by rw [hquote]; rfl) (by decide)
  | case2 _ hslash => exact hletter '\\' (by rw [hslash]; rfl) (by decide)
  | case3 _ _ h8 => exact hletter 'b' (by rw [h8]; rfl) (by decide)
  | case4 _ _ _ hC => exact hletter 'f' (by rw [hC]; rfl) (by decide)
  | case5 _ _ _ _ hA => exact hletter 'n' (by rw [hA]; rfl) (by decide)
  | case6 _ _ _ _ _ hD => exact hletter 'r' (by rw [hD]; rfl) (by decide)
  | case7 _ _ _ _ _ _ h9 => exact hletter 't' (by rw [h9]; rfl) (by decide)
  | case8 hquote hslash =>
    have hvalue : (Char.ofNat code).toNat = code := toNat_ofNat (by omega)
    have hne : ∀ c : Char, c.toNat ≠ code → Char.ofNat code ≠ c := by
      rintro c hc rfl
      exact hc hvalue
    have hplainChar := readString_plainChar (hne '"' (Ne.symm hquote)) (hne '\\' (Ne.symm hslash))
      (by omega) opening fuel codes (next :: rest)
    rw [hvalue] at hplainChar
    exact hplainChar
  | case9 _ _ _ _ _ _ _ _ hunit =>
    have hhigh : isHighSurrogate code = false := by
      rw [Bool.eq_false_iff, ne_eq, isHighSurrogate_iff]
      omega
    rw [unitEscape, List.cons_append, List.cons_append]
    exact readString_backslash (readEscape_unit hunit hhigh opening next rest) fuel codes
  | case10 =>
    have hhigh : isHighSurrogate (0xD800 + (code - 0x10000) / 0x400) = true := by
      rw [isHighSurrogate_iff]
      omega
    have hlow : isLowSurrogate (0xDC00 + (code - 0x10000) % 0x400) = true := by
      rw [isLowSurrogate_iff]
      omega
    have hpair := readEscape_pair hhigh hlow opening next rest
    rw [surrogates_sum (by omega)] at hpair
    rw [List.append_assoc, unitEscape, List.cons_append, List.cons_append]
    exact readString_backslash hpair fuel codes

/-! ## Whole strings -/

theorem writeCode_ne_nil (code : Nat) : writeCode code ≠ [] := by
  fun_cases writeCode code <;> exact List.cons_ne_nil _ _

theorem length_le_flatMap_writeCode (codes : List Nat) :
    codes.length ≤ (codes.flatMap writeCode).length := by
  induction codes with
  | nil => simp
  | cons code rest ih =>
      have hpos := List.length_pos_of_ne_nil (writeCode_ne_nil code)
      simp only [List.flatMap_cons, List.length_append, List.length_cons]
      omega

theorem readString_flatMap_writeCode
    (opening : List Char) {unread : List Nat} (hscalar : ∀ code ∈ unread, JsonString.isScalar code = true)
    {fuel : Nat} (hfuel : unread.length < fuel) (codes : List Nat) (rest : List Char) :
    readString opening fuel codes (unread.flatMap writeCode ++ '"' :: rest) =
      .ok (JsonString.ofCodes (codes.reverse ++ unread), rest) := by
  induction unread generalizing fuel codes with
  | nil =>
      obtain ⟨fuel, rfl⟩ : ∃ n, fuel = n + 1 := ⟨fuel - 1, by simp at hfuel; omega⟩
      simp [readString]
  | cons code more ih =>
      rw [List.length_cons] at hfuel
      obtain ⟨fuel, rfl⟩ : ∃ n, fuel = n + 1 := ⟨fuel - 1, by omega⟩
      have hcode := hscalar code List.mem_cons_self
      have hmore : ∀ c ∈ more, JsonString.isScalar c = true :=
        fun c hc => hscalar c (List.mem_cons_of_mem code hc)
      -- Behind the code point stands the rest of the string or the closing quote.
      obtain ⟨next, tail, htail⟩ :
          ∃ next tail, more.flatMap writeCode ++ '"' :: rest = next :: tail := by
        cases hcase : more.flatMap writeCode ++ '"' :: rest with
        | nil => simp at hcase
        | cons next tail => exact ⟨next, tail, rfl⟩
      rw [List.flatMap_cons, List.append_assoc, htail, readString_writeCode hcode, ← htail,
        ih hmore (by omega)]
      simp

theorem isScalar_toNat (c : Char) : JsonString.isScalar c.toNat = true := by
  have hvalid : c.toNat < 0xD800 ∨ 0xDFFF < c.toNat ∧ c.toNat < 0x110000 := c.valid
  simpa [JsonString.isScalar] using hvalid

theorem ofCodes_codes (s : String) :
    JsonString.ofCodes (JsonString.plain s).codes = .plain s := by
  have hall : ((s.toList.map Char.toNat).all JsonString.isScalar) = true := by
    simp only [List.all_map, List.all_eq_true, Function.comp_apply]
    exact fun c _ => isScalar_toNat c
  have hchars : (s.toList.map Char.toNat).map Char.ofNat = s.toList := by
    simp [List.map_map, Function.comp_def]
  rw [JsonString.codes, JsonString.ofCodes, if_pos hall, hchars, String.ofList_toList]

/-- A string of characters is read back behind its opening quote. -/
theorem readString_plain (s : String) (opening : List Char) (rest : List Char) :
    readString opening
        (((JsonString.plain s).codes.flatMap writeCode ++ '"' :: rest).length + 1) []
        ((JsonString.plain s).codes.flatMap writeCode ++ '"' :: rest) =
      .ok (.plain s, rest) := by
  have hscalar : ∀ code ∈ (JsonString.plain s).codes, JsonString.isScalar code = true := by
    intro code hcode
    obtain ⟨c, _, rfl⟩ := List.mem_map.mp hcode
    exact isScalar_toNat c
  have hfuel :
      (JsonString.plain s).codes.length <
        ((JsonString.plain s).codes.flatMap writeCode ++ '"' :: rest).length + 1 := by
    have hlength := length_le_flatMap_writeCode (JsonString.plain s).codes
    rw [List.length_append]
    omega
  rw [readString_flatMap_writeCode opening hscalar hfuel, List.reverse_nil, List.nil_append,
    ofCodes_codes]

end Json

end AccountSessions
