import AccountSessions.Json.Bytes
import AccountSessions.Proofs.JsonRoundTrip
import AccountSessions.Proofs.Utf8
import Mathlib.Data.Bool.AllAny

/-!
# Written values in characters and bytes

A value is written in ASCII, so it has as many bytes as characters, and a character of a
string takes one, two, six or twelve of them.  A written record begins with a brace and a
quote, which give its encoding away, and is read back from its bytes.
-/

namespace AccountSessions

namespace Json

/-! ## Strings -/

/-- The code points that are escaped with a letter of their own. -/
def letterCodes : List Nat := [0x22, 0x5C, 0x8, 0xC, 0xA, 0xD, 0x9]

/-- How many characters a code point takes within a string. -/
def escapedWidth (code : Nat) : Nat :=
  if code ∈ letterCodes then 2
  else if 0x20 ≤ code ∧ code < 0x7F then 1
  else if code < 0x10000 then 6
  else 12

def escapedLength (text : String) : Nat :=
  (text.toList.map fun c => escapedWidth c.toNat).sum

theorem unitEscape_spec {unit : Nat} (hunit : unit < 0x10000) :
    (unitEscape unit).length = 6 ∧ ∀ c ∈ unitEscape unit, c.toNat < 0x80 := by
  have hdigit : ∀ digit < 16, (Nat.digitChar digit).toNat < 0x80 := by decide
  rw [unitEscape, Text.Quoted.hex_four hunit]
  refine ⟨rfl, ?_⟩
  simp only [List.forall_mem_cons]
  exact ⟨by decide, by decide, hdigit _ (by omega), hdigit _ (by omega), hdigit _ (by omega),
    hdigit _ (by omega), by simp⟩

theorem writeCode_spec {code : Nat} (hcode : code < 0x110000) :
    (writeCode code).length = escapedWidth code ∧ ∀ c ∈ writeCode code, c.toNat < 0x80 := by
  by_cases hletter : code ∈ letterCodes
  · rw [escapedWidth, if_pos hletter]
    simp only [letterCodes, List.mem_cons, List.not_mem_nil, or_false] at hletter
    rcases hletter with rfl | rfl | rfl | rfl | rfl | rfl | rfl
    all_goals exact ⟨rfl, List.all_iff_forall_prop.mp (by decide)⟩
  · have hplain : writeCode code =
        if 0x20 ≤ code ∧ code < 0x7F then [Char.ofNat code]
        else if code < 0x10000 then unitEscape code
        else
          unitEscape (0xD800 + (code - 0x10000) / 0x400) ++
            unitEscape (0xDC00 + (code - 0x10000) % 0x400) := by
      simp only [letterCodes, List.mem_cons, List.not_mem_nil, or_false, not_or] at hletter
      obtain ⟨h₁, h₂, h₃, h₄, h₅, h₆, h₇⟩ := hletter
      rw [writeCode, if_neg h₁, if_neg h₂, if_neg h₃, if_neg h₄, if_neg h₅, if_neg h₆, if_neg h₇]
    rw [hplain, escapedWidth, if_neg hletter]
    split_ifs with hprintable hunit
    · refine ⟨rfl, List.forall_mem_singleton.mpr ?_⟩
      rw [toNat_ofNat (by omega)]
      omega
    · exact unitEscape_spec hunit
    · obtain ⟨hhigh, hhighAscii⟩ :=
        unitEscape_spec (show 0xD800 + (code - 0x10000) / 0x400 < 0x10000 by omega)
      obtain ⟨hlow, hlowAscii⟩ :=
        unitEscape_spec (show 0xDC00 + (code - 0x10000) % 0x400 < 0x10000 by omega)
      rw [List.length_append, hhigh, hlow, List.forall_mem_append]
      exact ⟨rfl, hhighAscii, hlowAscii⟩

theorem toNat_lt (c : Char) : c.toNat < 0x110000 := by
  have hscalar := Text.Utf8.toNat_scalar c
  omega

theorem length_write_text (text : String) :
    (write (.text text)).length = escapedLength text + 2 := by
  have hcodes : ((JsonString.plain text).codes.flatMap writeCode).length = escapedLength text := by
    simp only [JsonString.codes, List.length_flatMap, List.map_map, escapedLength]
    congr 1
    exact List.map_congr_left fun c _ => (writeCode_spec (toNat_lt c)).1
  rw [Json.text, write, writeString, List.length_append, List.length_cons, hcodes]
  rfl

theorem ascii_writeString (text : String) :
    ∀ c ∈ writeString (.plain text), c.toNat < 0x80 := by
  rw [writeString, List.cons_append, List.forall_mem_cons, List.forall_mem_append]
  refine ⟨by decide, ?_, List.forall_mem_singleton.mpr (by decide)⟩
  intro c hc
  obtain ⟨code, hcode, hc⟩ := List.mem_flatMap.mp hc
  obtain ⟨char, -, rfl⟩ := List.mem_map.mp hcode
  exact (writeCode_spec (toNat_lt char)).2 c hc

theorem escapedLength_of_narrow {text : String}
    (hnarrow : ∀ c ∈ text.toList, escapedWidth c.toNat = 1) :
    escapedLength text = text.length := by
  rw [escapedLength, List.map_congr_left hnarrow, List.map_const', List.sum_replicate,
    String.length_toList, smul_eq_mul, mul_one]

theorem escapedLength_toString (value : Int) :
    escapedLength (toString value) = (toString value).length := by
  apply escapedLength_of_narrow
  intro c hc
  rw [WholeNumber.toList_toString, WholeNumber.spelled, List.mem_append] at hc
  rcases hc with hsign | hdigit
  · split at hsign
    · rw [List.mem_singleton.mp hsign]
      rfl
    · cases hsign
  · have hcode := WholeNumber.toNat_lt_of_isAsciiDigit
      (WholeNumber.isAsciiDigit_of_mem_toDigits hdigit)
    have hletter : c.toNat ∉ letterCodes := by
      simp only [letterCodes, List.mem_cons, List.not_mem_nil, or_false]
      omega
    rw [escapedWidth, if_neg hletter, if_pos (by omega)]

/-- Whether a character is written as a pair of escapes. -/
def isPaired (c : Char) : Bool :=
  0x10000 ≤ c.toNat

theorem escapedWidth_le (c : Char) :
    escapedWidth c.toNat ≤ 6 + 6 * (if isPaired c = true then 1 else 0) := by
  by_cases hpair : 0x10000 ≤ c.toNat
  · rw [isPaired, if_pos (decide_eq_true hpair), escapedWidth]
    split_ifs <;> omega
  · rw [isPaired, if_neg (by simpa using hpair), escapedWidth, if_pos (Nat.lt_of_not_le hpair)]
    split_ifs <;> omega

theorem escapedLength_le (text : String) :
    escapedLength text ≤ 6 * text.length + 6 * text.toList.countP isPaired := by
  rw [escapedLength, ← String.length_toList]
  induction text.toList with
  | nil => exact Nat.zero_le _
  | cons c rest ih =>
      have hwidth := escapedWidth_le c
      rw [List.map_cons, List.sum_cons, List.length_cons, List.countP_cons]
      omega

/-! ## Values -/

theorem ascii_writeItems {items : List Json}
    (hitems : ∀ item ∈ items, ∀ c ∈ item.write, c.toNat < 0x80) :
    ∀ c ∈ writeItems items, c.toNat < 0x80 := by
  induction items with
  | nil =>
      rw [writeItems]
      exact List.forall_mem_singleton.mpr (by decide)
  | cons item rest ih =>
      obtain ⟨hitem, hrest⟩ := List.forall_mem_cons.mp hitems
      cases rest with
      | nil =>
          rw [writeItems, List.forall_mem_append]
          exact ⟨hitem, List.forall_mem_singleton.mpr (by decide)⟩
      | cons next others =>
          rw [writeItems, List.forall_mem_append, List.forall_mem_cons]
          · exact ⟨hitem, by decide, ih hrest⟩
          · simp

theorem ascii_writeMembers {members : List (String × Json)}
    (hmembers : ∀ member ∈ members, ∀ c ∈ member.2.write, c.toNat < 0x80) :
    ∀ c ∈ writeMembers (named members), c.toNat < 0x80 := by
  induction members with
  | nil =>
      rw [named, List.map_nil, writeMembers]
      exact List.forall_mem_singleton.mpr (by decide)
  | cons member rest ih =>
      obtain ⟨name, value⟩ := member
      obtain ⟨hvalue, hrest⟩ := List.forall_mem_cons.mp hmembers
      have hname := ascii_writeString name
      cases rest with
      | nil =>
          rw [named_cons, named, List.map_nil, writeMembers, List.forall_mem_append,
            List.forall_mem_append, List.forall_mem_cons]
          exact ⟨⟨hname, by decide, hvalue⟩, List.forall_mem_singleton.mpr (by decide)⟩
      | cons next others =>
          have htail := ih hrest
          rw [named_cons] at htail
          rw [named_cons, named_cons, writeMembers]
          · simp only [List.forall_mem_append, List.forall_mem_cons] at htail ⊢
            exact ⟨⟨hname, by decide, hvalue⟩, by decide, htail⟩
          · simp

theorem ascii_write {depth : Nat} {value : Json} (hlegible : Legible depth value) :
    ∀ c ∈ value.write, c.toNat < 0x80 := by
  induction hlegible with
  | null => exact List.all_iff_forall_prop.mp (by decide)
  | bool value =>
      cases value with
      | false => exact List.all_iff_forall_prop.mp (by decide)
      | true => exact List.all_iff_forall_prop.mp (by decide)
  | int _ =>
      rw [write, WholeNumber.toList_toString]
      exact WholeNumber.spelled_ascii _
  | text s => exact ascii_writeString s
  | list _ ih =>
      rw [write, List.forall_mem_cons]
      exact ⟨by decide, ascii_writeItems ih⟩
  | @record _ members _ _ ih =>
      show ∀ c ∈ write (.object (named members)), c.toNat < 0x80
      rw [write, List.forall_mem_cons]
      exact ⟨by decide, ascii_writeMembers ih⟩

theorem length_writeMembers {members : List (String × Json)} (hmembers : members ≠ []) :
    (writeMembers (named members)).length =
      (members.map fun member => escapedLength member.1 + member.2.write.length + 4).sum := by
  induction members with
  | nil => exact absurd rfl hmembers
  | cons member rest ih =>
      obtain ⟨name, value⟩ := member
      have hname := length_write_text name
      rw [text, write] at hname
      cases rest with
      | nil =>
          rw [named_cons, named, List.map_nil, writeMembers]
          simp only [List.length_append, List.length_cons, List.length_nil, hname, List.map_cons,
            List.map_nil, List.sum_cons, List.sum_nil]
          omega
      | cons next others =>
          have htail := ih (List.cons_ne_nil next others)
          rw [named_cons] at htail
          rw [named_cons, named_cons, writeMembers]
          · rw [List.map_cons, List.sum_cons, ← htail]
            simp only [List.length_append, List.length_cons, hname]
            omega
          · simp

theorem length_encode_write {depth : Nat} {value : Json} (hlegible : Legible depth value) :
    (Text.Utf8.encode value.write).length = value.write.length := by
  rw [Text.Utf8.encode_ascii (ascii_write hlegible), List.length_map]

/-! ## Bytes -/

theorem flatMap_spell (cs : List Char) : (cs.map Char.toNat).flatMap spell = cs := by
  induction cs with
  | nil => rfl
  | cons c rest ih =>
      rw [List.map_cons, List.flatMap_cons, ih, spell, if_pos (isScalar_toNat c), Char.ofNat_toNat]
      rfl

theorem likelyEncoding_brace (rest : List UInt8) :
    likelyEncoding (0x7B :: 0x22 :: rest) = .bytes := by
  match rest with
  | [] | [_] | _ :: _ :: _ => rfl

theorem readBytes_record {members : List (String × Json)} (hmembers : members ≠ [])
    (hlegible : Legible nestingLimit (.record members)) :
    readBytes (Text.Utf8.encode (write (.record members))) = .ok (.record members) := by
  obtain ⟨rest, hwrite⟩ : ∃ rest, write (.record members) = '\x7b' :: '"' :: rest := by
    cases members with
    | nil => exact absurd rfl hmembers
    | cons member others => cases others <;> exact ⟨_, rfl⟩
  have hread := read_write hlegible
  have hbytes : Text.Utf8.encode (write (.record members)) =
      0x7B :: 0x22 :: Text.Utf8.encode rest := by
    rw [hwrite]
    rfl
  have hcodes : Encoding.bytes.decode? (Text.Utf8.encode (write (.record members))) =
      some ((write (.record members)).map Char.toNat) := by
    rw [Encoding.decode?, Text.Utf8.decodeCodes, Text.Utf8.decodeFrom_encode]
    rfl
  have hmarked : markedEncoding? (0x7B :: 0x22 :: Text.Utf8.encode rest) = none := rfl
  rw [readBytes, hbytes, hmarked, likelyEncoding_brace, ← hbytes]
  dsimp only [Option.getD_none]
  rw [hcodes]
  dsimp only
  rw [flatMap_spell, hread]

end Json

end AccountSessions
