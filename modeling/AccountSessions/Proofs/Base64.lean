import AccountSessions.Encoding.Base64
import AccountSessions.Proofs.Utf8

/-!
# Bytes in base64 and back

Bytes written in base64 are read back, although the writer leaves out the padding: the
reader pads the letters by what their number lacks to a multiple of four.  The letters are
ASCII and none of them is a point, so a token falls into its segments at the points.
-/

namespace AccountSessions.Base64

open Text

/-! ## Letters -/

theorem letter_spec {value : Nat} (hvalue : value < 64) :
    (letter value).toNat < 0x80 ∧ letter value ≠ '.' ∧
      (letter value).toNat.toUInt8 ≠ 0x3D ∧
      value? (letter value).toNat.toUInt8 = some value := by
  have hall : ∀ v < 64, (letter v).toNat < 0x80 ∧ letter v ≠ '.' ∧
      (letter v).toNat.toUInt8 ≠ 0x3D ∧ value? (letter v).toNat.toUInt8 = some v := by
    decide
  exact hall value hvalue

theorem encodeChar_letter {value : Nat} (hvalue : value < 64) :
    Utf8.encodeChar (letter value) = [(letter value).toNat.toUInt8] :=
  Utf8.encodeChar_ascii (letter_spec hvalue).1

theorem exists_letter_of_mem_encode (bytes : List UInt8) :
    ∀ c ∈ encode bytes, ∃ value < 64, c = letter value := by
  have hbyte : ∀ byte : UInt8, byte.toNat < 256 := fun byte => byte.toNat_lt
  induction bytes using encode.induct with
  | case1 => simp [encode]
  | case2 a =>
      have ha := hbyte a
      intro c hc
      simp only [encode, List.mem_cons, List.not_mem_nil, or_false] at hc
      rcases hc with rfl | rfl
      · exact ⟨_, by omega, rfl⟩
      · exact ⟨_, by omega, rfl⟩
  | case3 a b =>
      have ha := hbyte a
      have hb := hbyte b
      intro c hc
      simp only [encode, List.mem_cons, List.not_mem_nil, or_false] at hc
      rcases hc with rfl | rfl | rfl
      · exact ⟨_, by omega, rfl⟩
      · exact ⟨_, by omega, rfl⟩
      · exact ⟨_, by omega, rfl⟩
  | case4 a b c rest ih =>
      have ha := hbyte a
      have hb := hbyte b
      have hc := hbyte c
      intro d hd
      simp only [encode, List.mem_cons] at hd
      rcases hd with rfl | rfl | rfl | rfl | hd
      · exact ⟨_, by omega, rfl⟩
      · exact ⟨_, by omega, rfl⟩
      · exact ⟨_, by omega, rfl⟩
      · exact ⟨_, by omega, rfl⟩
      · exact ih d hd

theorem point_not_mem_encode (bytes : List UInt8) : '.' ∉ encode bytes := by
  intro hmem
  obtain ⟨value, hvalue, hpoint⟩ := exists_letter_of_mem_encode bytes '.' hmem
  exact (letter_spec hvalue).2.1 hpoint.symm

/-! ## Groups of four letters -/

theorem decodeFrom_letter
    {value : Nat} (hvalue : value < 64) (progress : Progress) (read rest : List UInt8) :
    decodeFrom progress read ((letter value).toNat.toUInt8 :: rest) =
      match progress.letters with
      | 0 => decodeFrom ⟨1, value, 0⟩ read rest
      | 1 => decodeFrom ⟨2, value % 16, 0⟩ ((progress.bits * 4 + value / 16).toUInt8 :: read) rest
      | 2 => decodeFrom ⟨3, value % 4, 0⟩ ((progress.bits * 16 + value / 4).toUInt8 :: read) rest
      | _ => decodeFrom ⟨0, 0, 0⟩ ((progress.bits * 64 + value).toUInt8 :: read) rest := by
  obtain ⟨-, -, hmark, hread⟩ := letter_spec hvalue
  rewrite [decodeFrom, if_neg hmark, hread]
  rfl

theorem toUInt8_eq {n : Nat} {byte : UInt8} (h : n = byte.toNat) : n.toUInt8 = byte := by
  rw [h]
  exact UInt8.ofNat_toNat

theorem decodeFrom_two_letters
    (a : UInt8) {low : Nat} (hlow : low < 16) (read rest : List UInt8) :
    decodeFrom .start read
        ((letter (a.toNat / 4)).toNat.toUInt8 ::
          (letter (a.toNat % 4 * 16 + low)).toNat.toUInt8 :: rest) =
      decodeFrom ⟨2, low, 0⟩ (a :: read) rest := by
  have ha : a.toNat < 256 := a.toNat_lt
  have hbyte : a.toNat / 4 * 4 + (a.toNat % 4 * 16 + low) / 16 = a.toNat := by omega
  have hbits : (a.toNat % 4 * 16 + low) % 16 = low := by omega
  rw [decodeFrom_letter (by omega)]
  simp only [Progress.start]
  rw [decodeFrom_letter (by omega)]
  simp only [toUInt8_eq hbyte, hbits]

theorem decodeFrom_third_letter
    (b : UInt8) {low : Nat} (hlow : low < 4) (read rest : List UInt8) :
    decodeFrom ⟨2, b.toNat / 16, 0⟩ read
        ((letter (b.toNat % 16 * 4 + low)).toNat.toUInt8 :: rest) =
      decodeFrom ⟨3, low, 0⟩ (b :: read) rest := by
  have hb : b.toNat < 256 := b.toNat_lt
  have hbyte : b.toNat / 16 * 16 + (b.toNat % 16 * 4 + low) / 4 = b.toNat := by omega
  have hbits : (b.toNat % 16 * 4 + low) % 4 = low := by omega
  rw [decodeFrom_letter (by omega)]
  simp only [toUInt8_eq hbyte, hbits]

theorem decodeFrom_fourth_letter (c : UInt8) (read rest : List UInt8) :
    decodeFrom ⟨3, c.toNat / 64, 0⟩ read
        ((letter (c.toNat % 64)).toNat.toUInt8 :: rest) =
      decodeFrom .start (c :: read) rest := by
  have hbyte : c.toNat / 64 * 64 + c.toNat % 64 = c.toNat := by omega
  rw [decodeFrom_letter (by omega)]
  simp only [toUInt8_eq hbyte]
  rfl

/-! ## The whole -/

/-- Reading goes through the letters and ends at the padding that completes them. -/
theorem decodeFrom_encode (bytes read : List UInt8) :
    decodeFrom .start read (padded (Utf8.encode (encode bytes))) =
      .ok (read.reverse ++ bytes) := by
  unfold padded
  induction bytes using encode.induct generalizing read with
  | case1 => simp [encode, Utf8.encode, decodeFrom, Progress.start]
  | case2 a =>
      have ha : a.toNat < 256 := a.toNat_lt
      have hencode : Utf8.encode (encode [a]) =
          [(letter (a.toNat / 4)).toNat.toUInt8, (letter (a.toNat % 4 * 16 + 0)).toNat.toUInt8] := by
        simp only [encode, Utf8.encode_cons, encodeChar_letter (show a.toNat / 4 < 64 by omega),
          encodeChar_letter (show a.toNat % 4 * 16 < 64 by omega)]
        rfl
      rw [hencode]
      simp only [List.cons_append, List.nil_append]
      rw [decodeFrom_two_letters a (by decide)]
      simp [List.replicate, decodeFrom]
  | case3 a b =>
      have ha : a.toNat < 256 := a.toNat_lt
      have hb : b.toNat < 256 := b.toNat_lt
      have hencode : Utf8.encode (encode [a, b]) =
          [(letter (a.toNat / 4)).toNat.toUInt8,
            (letter (a.toNat % 4 * 16 + b.toNat / 16)).toNat.toUInt8,
            (letter (b.toNat % 16 * 4 + 0)).toNat.toUInt8] := by
        simp only [encode, Utf8.encode_cons, encodeChar_letter (show a.toNat / 4 < 64 by omega),
          encodeChar_letter (show a.toNat % 4 * 16 + b.toNat / 16 < 64 by omega),
          encodeChar_letter (show b.toNat % 16 * 4 < 64 by omega)]
        rfl
      rw [hencode]
      simp only [List.cons_append, List.nil_append]
      rw [decodeFrom_two_letters a (by omega), decodeFrom_third_letter b (by decide)]
      simp [decodeFrom]
  | case4 a b c rest ih =>
      have ha : a.toNat < 256 := a.toNat_lt
      have hb : b.toNat < 256 := b.toNat_lt
      have hc : c.toNat < 256 := c.toNat_lt
      have hencode : Utf8.encode (encode (a :: b :: c :: rest)) =
          (letter (a.toNat / 4)).toNat.toUInt8 ::
            (letter (a.toNat % 4 * 16 + b.toNat / 16)).toNat.toUInt8 ::
              (letter (b.toNat % 16 * 4 + c.toNat / 64)).toNat.toUInt8 ::
                (letter (c.toNat % 64)).toNat.toUInt8 :: Utf8.encode (encode rest) := by
        simp only [encode, Utf8.encode_cons, encodeChar_letter (show a.toNat / 4 < 64 by omega),
          encodeChar_letter (show a.toNat % 4 * 16 + b.toNat / 16 < 64 by omega),
          encodeChar_letter (show b.toNat % 16 * 4 + c.toNat / 64 < 64 by omega),
          encodeChar_letter (show c.toNat % 64 < 64 by omega)]
        rfl
      have hpadding :
          (4 - (Utf8.encode (encode (a :: b :: c :: rest))).length % 4) % 4 =
            (4 - (Utf8.encode (encode rest)).length % 4) % 4 := by
        rw [hencode]
        simp only [List.length_cons]
        omega
      rw [hpadding, hencode]
      simp only [List.cons_append]
      rw [decodeFrom_two_letters a (by omega), decodeFrom_third_letter b (by omega),
        decodeFrom_fourth_letter, ih]
      simp

/-- Bytes are read back from their letters. -/
theorem decode_encode (bytes : List UInt8) :
    decode (Utf8.encode (encode bytes)) = .ok bytes := by
  rw [decode, decodeFrom_encode, List.reverse_nil, List.nil_append]

end AccountSessions.Base64
