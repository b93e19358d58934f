import AccountSessions.Text.Fields
import AccountSessions.Text.Utf8
import Mathlib.Tactic

/-!
# Characters in bytes and back

Bytes that spell characters are read back as these characters.  An ASCII byte stands for
its character alone and never within another one, so the bytes of a text fall into fields
where the text does.
-/

namespace AccountSessions.Text.Utf8

theorem toNat_toUInt8 {n : Nat} (hn : n < 0x100) : n.toUInt8.toNat = n := by
  show n % 2 ^ 8 = n
  omega

theorem toNat_tailByte (code : Nat) : (tailByte code).toNat = 0x80 + code % 0x40 := by
  rw [tailByte, toNat_toUInt8 (by omega)]

theorem toNat_scalar (c : Char) :
    c.toNat < 0xD800 ∨ 0xDFFF < c.toNat ∧ c.toNat < 0x110000 :=
  c.valid

/-! ## Reading what was written -/

theorem decodeFrom_tail
    {scope : Scope} {offset : Nat} {read : List Nat} {pending : Pending} {byte : UInt8}
    (hlow : pending.low ≤ byte.toNat) (hhigh : byte.toNat ≤ pending.high)
    (hmissing : 1 < pending.missing) (rest : List UInt8) :
    decodeFrom scope offset read (some pending) (byte :: rest) =
      decodeFrom scope offset read
        (some ⟨pending.code * 0x40 + (byte.toNat - 0x80), pending.missing - 1, 0x80, 0xBF,
          byte :: pending.seen⟩) rest := by
  rw [decodeFrom]
  dsimp only
  rw [if_pos ⟨hlow, hhigh⟩, if_neg (by omega)]

theorem decodeFrom_last
    {scope : Scope} {offset : Nat} {read : List Nat} {pending : Pending} {byte : UInt8}
    (hlow : pending.low ≤ byte.toNat) (hhigh : byte.toNat ≤ pending.high)
    (hmissing : pending.missing = 1) (rest : List UInt8) :
    decodeFrom scope offset read (some pending) (byte :: rest) =
      decodeFrom scope (offset + pending.seen.length + 1)
        ((pending.code * 0x40 + (byte.toNat - 0x80)) :: read) none rest := by
  rw [decodeFrom]
  dsimp only
  rw [if_pos ⟨hlow, hhigh⟩, if_pos (by omega)]

theorem decodeFrom_first
    {scope : Scope} {offset : Nat} {read : List Nat} {pending : Pending} {byte : UInt8}
    (hbyte : 0x80 ≤ byte.toNat) (hannounced : announced scope byte = some pending)
    (rest : List UInt8) :
    decodeFrom scope offset read none (byte :: rest) =
      decodeFrom scope offset read (some pending) rest := by
  rw [decodeFrom, if_neg (by omega), hannounced]

theorem announced_two
    {scope : Scope} {byte : UInt8} (hlow : 0xC2 ≤ byte.toNat) (hhigh : byte.toNat < 0xE0) :
    announced scope byte = some ⟨byte.toNat - 0xC0, 1, 0x80, 0xBF, [byte]⟩ := by
  unfold announced
  dsimp only
  rw [if_neg (by omega), if_pos hhigh]

/-- The first of three bytes bounds the second one so that the code point is no shorter
one and no surrogate. -/
theorem announced_three
    (scope : Scope) {byte second : UInt8} (hlow : 0xE0 ≤ byte.toNat) (hhigh : byte.toNat < 0xF0)
    (hsecond : 0x80 ≤ second.toNat ∧ second.toNat ≤ 0xBF)
    (hlong : byte.toNat = 0xE0 → 0xA0 ≤ second.toNat)
    (hscalar : byte.toNat = 0xED → second.toNat ≤ 0x9F) :
    ∃ low high, announced scope byte = some ⟨byte.toNat - 0xE0, 2, low, high, [byte]⟩ ∧
      low ≤ second.toNat ∧ second.toNat ≤ high := by
  unfold announced
  dsimp only
  rw [if_neg (by omega), if_neg (by omega)]
  split_ifs with hE0 hED
  · exact ⟨0xA0, 0xBF, by rw [hE0], hlong hE0, hsecond.2⟩
  · have hbound : 0x9F ≤ scope.bound := by cases scope <;> decide
    exact ⟨0x80, scope.bound, by rw [hED], hsecond.1, (hscalar hED).trans hbound⟩
  · exact ⟨0x80, 0xBF, rfl, hsecond.1, hsecond.2⟩

/-- The first of four bytes bounds the second one so that the code point is no shorter
one and within the range. -/
theorem announced_four
    (scope : Scope) {byte second : UInt8} (hlow : 0xF0 ≤ byte.toNat) (hhigh : byte.toNat ≤ 0xF4)
    (hsecond : 0x80 ≤ second.toNat ∧ second.toNat ≤ 0xBF)
    (hlong : byte.toNat = 0xF0 → 0x90 ≤ second.toNat)
    (hrange : byte.toNat = 0xF4 → second.toNat ≤ 0x8F) :
    ∃ low high, announced scope byte = some ⟨byte.toNat - 0xF0, 3, low, high, [byte]⟩ ∧
      low ≤ second.toNat ∧ second.toNat ≤ high := by
  unfold announced
  dsimp only
  rw [if_neg (by omega), if_neg (by omega), if_neg (by omega), if_neg (by omega),
    if_neg (by omega)]
  split_ifs with hF0 hlt hF4
  · exact ⟨0x90, 0xBF, by rw [hF0], hlong hF0, hsecond.2⟩
  · exact ⟨0x80, 0xBF, rfl, hsecond.1, hsecond.2⟩
  · exact ⟨0x80, 0x8F, by rw [hF4], hsecond.1, hrange hF4⟩
  · omega

theorem decodeFrom_encodeChar
    (scope : Scope) (c : Char) (offset : Nat) (read : List Nat) (rest : List UInt8) :
    ∃ next, decodeFrom scope offset read none (encodeChar c ++ rest) =
      decodeFrom scope next (c.toNat :: read) none rest := by
  have hscalar := toNat_scalar c
  have htail : ∀ code, 0x80 ≤ (tailByte code).toNat ∧ (tailByte code).toNat ≤ 0xBF := by
    intro code
    rw [toNat_tailByte]
    omega
  unfold encodeChar
  dsimp only
  generalize c.toNat = code at hscalar
  split_ifs with hone htwo hthree
  · refine ⟨offset + 1, ?_⟩
    have hbyte : code.toUInt8.toNat = code := toNat_toUInt8 (by omega)
    rw [List.singleton_append, decodeFrom, hbyte, if_pos hone]
  · have hfirst : (0xC0 + code / 0x40).toUInt8.toNat = 0xC0 + code / 0x40 :=
      toNat_toUInt8 (by omega)
    have hannounced := @announced_two scope (0xC0 + code / 0x40).toUInt8
      (by omega) (by omega)
    refine ⟨offset + 1 + 1, ?_⟩
    rw [List.cons_append, List.singleton_append, decodeFrom_first (by omega) hannounced,
      decodeFrom_last (htail code).1 (htail code).2 rfl]
    have hcode : (0xC0 + code / 0x40 - 0xC0) * 0x40 + (0x80 + code % 0x40 - 0x80) = code := by
      omega
    simp only [hfirst, toNat_tailByte, hcode, List.length_singleton]
  · have hfirst : (0xE0 + code / 0x1000).toUInt8.toNat = 0xE0 + code / 0x1000 :=
      toNat_toUInt8 (by omega)
    have hsecond := toNat_tailByte (code / 0x40)
    obtain ⟨low, high, hannounced, hlow, hhigh⟩ :=
      @announced_three scope (0xE0 + code / 0x1000).toUInt8 (tailByte (code / 0x40))
        (by omega) (by omega) (htail _) (by omega) (by omega)
    refine ⟨offset + 2 + 1, ?_⟩
    rw [List.cons_append, List.cons_append, List.singleton_append,
      decodeFrom_first (by omega) hannounced,
      decodeFrom_tail hlow hhigh (Nat.lt_of_succ_le (by simp)),
      decodeFrom_last (htail code).1 (htail code).2 rfl]
    have hcode :
        ((0xE0 + code / 0x1000 - 0xE0) * 0x40 + (0x80 + code / 0x40 % 0x40 - 0x80)) * 0x40 +
            (0x80 + code % 0x40 - 0x80) =
          code := by
      omega
    simp only [hfirst, toNat_tailByte, hcode, List.length_cons, List.length_nil]
  · have hfirst : (0xF0 + code / 0x40000).toUInt8.toNat = 0xF0 + code / 0x40000 :=
      toNat_toUInt8 (by omega)
    have hsecond := toNat_tailByte (code / 0x1000)
    obtain ⟨low, high, hannounced, hlow, hhigh⟩ :=
      @announced_four scope (0xF0 + code / 0x40000).toUInt8 (tailByte (code / 0x1000))
        (by omega) (by omega) (htail _) (by omega) (by omega)
    refine ⟨offset + 3 + 1, ?_⟩
    rw [List.cons_append, List.cons_append, List.cons_append, List.singleton_append,
      decodeFrom_first (by omega) hannounced,
      decodeFrom_tail hlow hhigh (Nat.lt_of_succ_le (by simp)),
      decodeFrom_tail (htail _).1 (htail _).2 (Nat.lt_of_succ_le (by simp)),
      decodeFrom_last (htail code).1 (htail code).2 rfl]
    have hcode :
        (((0xF0 + code / 0x40000 - 0xF0) * 0x40 + (0x80 + code / 0x1000 % 0x40 - 0x80)) * 0x40 +
              (0x80 + code / 0x40 % 0x40 - 0x80)) * 0x40 +
            (0x80 + code % 0x40 - 0x80) =
          code := by
      omega
    simp only [hfirst, toNat_tailByte, hcode, List.length_cons, List.length_nil]

theorem decodeFrom_encode (scope : Scope) (cs : List Char) (offset : Nat) (read : List Nat) :
    decodeFrom scope offset read none (encode cs) =
      .ok (read.reverse ++ cs.map Char.toNat) := by
  induction cs generalizing offset read with
  | nil => simp [encode, decodeFrom]
  | cons c rest ih =>
      obtain ⟨next, hread⟩ := decodeFrom_encodeChar scope c offset read (encode rest)
      have hencode : encode (c :: rest) = encodeChar c ++ encode rest := rfl
      rw [hencode, hread, ih]
      simp

/-- The bytes of a text are read back as the text. -/
theorem decode_encode (cs : List Char) : decode (encode cs) = .ok cs := by
  rw [decode, decodeCodes, decodeFrom_encode]
  simp [Except.map, Function.comp_def]

theorem encode_inj {cs ds : List Char} : encode cs = encode ds ↔ cs = ds := by
  constructor
  · intro hsame
    have hdecoded := decode_encode cs
    rw [hsame, decode_encode] at hdecoded
    exact (Except.ok.inj hdecoded).symm
  · exact congrArg encode

/-! ## Fields of bytes -/

theorem encode_append (first second : List Char) :
    encode (first ++ second) = encode first ++ encode second :=
  List.flatMap_append

theorem encode_cons (c : Char) (rest : List Char) :
    encode (c :: rest) = encodeChar c ++ encode rest :=
  rfl

theorem encodeChar_ascii {c : Char} (hc : c.toNat < 0x80) : encodeChar c = [c.toNat.toUInt8] :=
  if_pos hc

theorem encode_ascii {cs : List Char} (hascii : ∀ c ∈ cs, c.toNat < 0x80) :
    encode cs = cs.map fun c => c.toNat.toUInt8 := by
  induction cs with
  | nil => rfl
  | cons c rest ih =>
      rw [encode_cons, encodeChar_ascii (hascii c List.mem_cons_self),
        ih fun d hd => hascii d (List.mem_cons_of_mem c hd)]
      rfl

/-- Beyond ASCII no byte of a character is a byte of ASCII. -/
theorem le_toNat_of_mem_encodeChar
    {c : Char} (hc : 0x80 ≤ c.toNat) {byte : UInt8} (hbyte : byte ∈ encodeChar c) :
    0x80 ≤ byte.toNat := by
  have hscalar := toNat_scalar c
  unfold encodeChar at hbyte
  dsimp only at hbyte
  generalize c.toNat = code at hscalar hc hbyte
  split_ifs at hbyte with hone htwo hthree
  · omega
  all_goals
    simp only [List.mem_cons, List.not_mem_nil, or_false] at hbyte
    rcases hbyte with rfl | hrest
    · rw [toNat_toUInt8 (by omega)]
      omega
    · have htail : ∃ n, byte = tailByte n := by
        first
          | exact ⟨_, hrest⟩
          | rcases hrest with h | h
            · exact ⟨_, h⟩
            · exact ⟨_, h⟩
          | rcases hrest with h | h | h
            · exact ⟨_, h⟩
            · exact ⟨_, h⟩
            · exact ⟨_, h⟩
      obtain ⟨n, rfl⟩ := htail
      rw [toNat_tailByte]
      omega

theorem point_mem_encode_iff (cs : List Char) : 0x2E ∈ encode cs ↔ '.' ∈ cs := by
  constructor
  · intro hmem
    obtain ⟨c, hc, hbyte⟩ := List.mem_flatMap.mp hmem
    have hascii : c.toNat < 0x80 := by
      by_contra hlarge
      have hbound := le_toNat_of_mem_encodeChar (Nat.le_of_not_lt hlarge) hbyte
      exact absurd hbound (by decide)
    rw [encodeChar_ascii hascii, List.mem_singleton] at hbyte
    have hcode := congrArg UInt8.toNat hbyte
    rw [toNat_toUInt8 (by omega)] at hcode
    have hpoint : c = '.' := Char.toNat_inj.mp hcode.symm
    exact hpoint ▸ hc
  · intro hmem
    exact List.mem_flatMap.mpr ⟨'.', hmem, by decide⟩

theorem fields_encode (cs : List Char) :
    fields 0x2E (encode cs) = (fields '.' cs).map encode := by
  by_cases hpoint : '.' ∈ cs
  · -- Split at the first point; both sides then agree on what stands behind it.
    obtain ⟨head, tail, hsplit, hhead⟩ := List.eq_append_cons_of_mem hpoint
    have hbytes : encode (head ++ '.' :: tail) = encode head ++ 0x2E :: encode tail := by
      rw [encode_append, encode_cons]
      rfl
    have hrest := fields_encode tail
    rw [hsplit, hbytes, fields_append_cons (by rwa [point_mem_encode_iff]),
      fields_append_cons hhead, hrest, List.map_cons]
  · rw [fields_of_not_mem (by rwa [point_mem_encode_iff]), fields_of_not_mem hpoint]
    rfl
termination_by cs.length
decreasing_by
  rw [hsplit, List.length_append, List.length_cons]
  omega

end AccountSessions.Text.Utf8
