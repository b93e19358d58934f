import AccountSessions.Proofs.IssuedTokens
import AccountSessions.Proofs.TrimmedTexts
import AccountSessions.Proofs.WrittenJson

/-!
# The texts of tokens

A token is written in letters and points, so it can stand in a header as it is.  How long
it is depends on the payload alone, of which three bytes become four letters.  The payload
grows with the address in it, which takes more characters there than it has.
-/

namespace AccountSessions

namespace Base64

theorem length_encode (bytes : List UInt8) :
    (encode bytes).length = (4 * bytes.length + 2) / 3 := by
  induction bytes using encode.induct with
  | case1 => rfl
  | case2 a => simp [encode]
  | case3 a b => simp [encode]
  | case4 a b c rest ih =>
      simp only [encode, List.length_cons, ih]
      omega

/-- A letter of base64 for URLs. -/
def IsLetter (c : Char) : Prop :=
  ('A' ≤ c ∧ c ≤ 'Z') ∨ ('a' ≤ c ∧ c ≤ 'z') ∨ ('0' ≤ c ∧ c ≤ '9') ∨ c = '-' ∨ c = '_'

instance (c : Char) : Decidable (IsLetter c) :=
  inferInstanceAs (Decidable (_ ∨ _))

theorem isLetter_of_mem_encode (bytes : List UInt8) : ∀ c ∈ encode bytes, IsLetter c := by
  have hall : ∀ value < 64, IsLetter (letter value) := by decide
  intro c hc
  obtain ⟨value, hvalue, rfl⟩ := exists_letter_of_mem_encode bytes c hc
  exact hall value hvalue

theorem IsLetter.toNat_bounds {c : Char} (hletter : IsLetter c) :
    0x2D ≤ c.toNat ∧ c.toNat ≤ 0x7A := by
  have hle (low high : Char) (h : low ≤ high) : low.toNat ≤ high.toNat := h
  rcases hletter with ⟨hlow, hhigh⟩ | ⟨hlow, hhigh⟩ | ⟨hlow, hhigh⟩ | rfl | rfl
  · exact ⟨.trans (by decide) (hle _ _ hlow), (hle _ _ hhigh).trans (by decide)⟩
  · exact ⟨.trans (by decide) (hle _ _ hlow), (hle _ _ hhigh).trans (by decide)⟩
  · exact ⟨.trans (by decide) (hle _ _ hlow), (hle _ _ hhigh).trans (by decide)⟩
  · decide
  · decide

theorem IsLetter.not_isWordBreak {c : Char} (hletter : IsLetter c) :
    Text.isWordBreak c = false := by
  obtain ⟨hlow, hhigh⟩ := hletter.toNat_bounds
  simp only [Text.isWordBreak, Text.isBlank, Bool.or_eq_false_iff, Bool.and_eq_false_iff,
    decide_eq_false_iff_not, beq_eq_false_iff_ne]
  omega

end Base64

namespace Token

theorem toList_of_sign
    {secret token : String} {payload : Json} (hsign : sign secret payload = .ok token) :
    ∃ digest : List UInt8, digest.length = 32 ∧
      token.toList = segment header ++ '.' :: (segment payload ++ '.' :: Base64.encode digest) := by
  obtain ⟨key, -, rfl⟩ := sign_eq_ok.mp hsign
  refine ⟨Hmac.sign key (Text.Utf8.encode (segment header ++ '.' :: segment payload)),
    Hmac.length_sign key _, ?_⟩
  rw [String.toList_ofList, Segments.text, Segments.signed, List.append_assoc, List.cons_append]
  rfl

/-- The text consists of letters and exactly two points. -/
structure Spelled (token : String) : Prop where
  nonempty : token ≠ ""
  letters : ∀ c ∈ token.toList, Base64.IsLetter c ∨ c = '.'
  points : token.toList.count '.' = 2

theorem spelled_of_sign
    {secret token : String} {payload : Json} (hsign : sign secret payload = .ok token) :
    Spelled token := by
  obtain ⟨digest, -, htoken⟩ := toList_of_sign hsign
  have hpoints (bytes : List UInt8) : (Base64.encode bytes).count '.' = 0 :=
    List.count_eq_zero.mpr (Base64.point_not_mem_encode bytes)
  constructor
  · rintro rfl
    simp at htoken
  · intro c hc
    rw [htoken] at hc
    simp only [List.mem_append, List.mem_cons] at hc
    rcases hc with hc | rfl | hc | rfl | hc
    · exact .inl (Base64.isLetter_of_mem_encode _ c hc)
    · exact .inr rfl
    · exact .inl (Base64.isLetter_of_mem_encode _ c hc)
    · exact .inr rfl
    · exact .inl (Base64.isLetter_of_mem_encode _ c hc)
  · rw [htoken, List.count_append, List.count_cons_self, List.count_append, List.count_cons_self]
    simp only [segment, hpoints]

theorem Issuer.spelled_of_issue
    {issuer : Issuer} {kind : Kind} {now : Moment} {tokenId token : String} {userId : Int}
    {email : Option String} (hissue : issuer.issue kind now tokenId userId email = .ok token) :
    Spelled token := by
  unfold issue at hissue
  split at hissue
  next => cases hissue
  next => exact spelled_of_sign hissue

theorem Spelled.not_isWordBreak {token : String} (hspelled : Spelled token) :
    ∀ c ∈ token.toList, Text.isWordBreak c = false := by
  intro c hc
  rcases hspelled.letters c hc with hletter | rfl
  · exact hletter.not_isWordBreak
  · rfl

/-- Nothing is cut off a token in a header. -/
theorem trimEnds_of_sign
    {secret token : String} {payload : Json} (hsign : sign secret payload = .ok token) :
    Text.trimEnds Text.isWordBreak token.toList = token.toList ∧ token.toList ≠ [] := by
  have hspelled := spelled_of_sign hsign
  exact ⟨(Text.trims_self hspelled.not_isWordBreak).eq_trimEnds.symm,
    String.toList_eq_nil_iff.not.mpr hspelled.nonempty⟩

theorem length_of_sign
    {secret token : String} {payload : Json} (hsign : sign secret payload = .ok token) :
    token.length = 81 + (4 * (Text.Utf8.encode payload.write).length + 2) / 3 := by
  obtain ⟨digest, hdigest, htoken⟩ := toList_of_sign hsign
  have hheader : (Text.Utf8.encode header.write).length = 27 := by decide +kernel
  rw [← String.length_toList, htoken]
  simp only [List.length_append, List.length_cons, segment, Base64.length_encode, hdigest, hheader]
  omega

/-- How many bytes the payload takes. -/
def Grant.size (grant : Grant) : Nat :=
  60 + (toString grant.userId).length + Json.escapedLength grant.email +
    Json.escapedLength grant.tokenId + grant.kind.name.length +
    2 * (toString (epochSeconds grant.issued)).length +
    (toString (epochSeconds grant.expires)).length

theorem Grant.length_write_payload (grant : Grant) : grant.payload.write.length = grant.size := by
  have hkind : Json.escapedLength grant.kind.name = grant.kind.name.length := by
    cases grant.kind <;> rfl
  have hint (value : Int) : (Json.int value).write.length = (toString value).length := by
    rw [Json.write, String.length_toList]
  have hnames : ∀ name ∈ ["sub", "jti", "typ", "iat", "nbf", "exp"],
      Json.escapedLength name = 3 := by decide
  simp only [List.forall_mem_cons] at hnames
  have hemail : Json.escapedLength "email" = 5 := by decide
  show (Json.write (.object (Json.named _))).length = _
  rw [Json.write, List.length_cons, Json.length_writeMembers (List.cons_ne_nil _ _)]
  simp only [List.map_cons, List.map_nil, List.sum_cons, List.sum_nil, Json.length_write_text, hint,
    hnames, hemail, hkind, Json.escapedLength_toString, Json.ofOption, size]
  omega

theorem Grant.escapedLength_le_size (grant : Grant) :
    Json.escapedLength grant.email ≤ grant.size := by
  unfold size
  omega

/-- A payload with a short token id is little longer than its address. -/
theorem Grant.size_le {grant : Grant} (hfits : WholeNumber.fitsWord grant.userId = true)
    (htokenId : Json.escapedLength grant.tokenId ≤ 36) :
    grant.size ≤ 165 + Json.escapedLength grant.email := by
  have huser : (toString grant.userId).length ≤ 19 + 1 := by
    apply WholeNumber.length_toString_le (by decide)
    simp only [WholeNumber.fitsWord, Bool.and_eq_true, decide_eq_true_eq] at hfits
    omega
  have hkind : grant.kind.name.length ≤ 7 := by
    cases grant.kind <;> decide
  have hissued := WholeNumber.length_toString_le (by decide)
    (natAbs_epochSeconds_lt_pow grant.issued)
  have hexpires := WholeNumber.length_toString_le (by decide)
    (natAbs_epochSeconds_lt_pow grant.expires)
  unfold size
  omega

theorem Issuer.length_of_issue
    {issuer : Issuer} {kind : Kind} {now expires : Moment} {tokenId email token : String}
    {userId : Int} (hissue : issuer.issue kind now tokenId userId (some email) = .ok token)
    (hexpires : now.add? (issuer.ttl kind) = some expires) :
    token.length =
      81 + (4 * Grant.size ⟨kind, userId, email, tokenId, now, expires⟩ + 2) / 3 := by
  obtain ⟨found, hfound, hsign⟩ := issue_eq_ok.mp hissue
  obtain rfl := Option.some.inj (hfound.symm.trans hexpires)
  rw [length_of_sign hsign, Json.length_encode_write (Grant.legible_payload _),
    Grant.length_write_payload]

end Token

end AccountSessions
