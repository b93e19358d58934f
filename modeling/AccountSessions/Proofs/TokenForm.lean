import AccountSessions.Proofs.Base64
import AccountSessions.Proofs.JsonRoundTrip
import AccountSessions.Proofs.WholeSeconds
import AccountSessions.Token.Verification

/-!
# The form of a token

A text opens as a token exactly if it consists of three segments between two points,
whose decoded parts are those of the opened token.  Verification is read as the row of
tests that it makes, and a token that was signed opens as what went into it.
-/

namespace AccountSessions

/-! ## Outcomes of chained calculations -/

@[simp]
theorem ok_bind {ε α β : Type} (value : α) (next : α → Except ε β) :
    (Except.ok value >>= next) = next value :=
  rfl

theorem bind_eq_ok
    {ε α β : Type} {first : Except ε α} {next : α → Except ε β} {result : β} :
    (first >>= next) = .ok result ↔ ∃ value, first = .ok value ∧ next value = .ok result := by
  cases first with
  | error fault =>
      constructor
      · intro h
        cases h
      · rintro ⟨value, hvalue, -⟩
        cases hvalue
  | ok value =>
      constructor
      · intro h
        exact ⟨value, rfl, h⟩
      · rintro ⟨_, hvalue, hnext⟩
        cases hvalue
        exact hnext

theorem bind_eq_error
    {ε α β : Type} {first : Except ε α} {next : α → Except ε β} {fault : ε} :
    (first >>= next) = .error fault ↔
      first = .error fault ∨ ∃ value, first = .ok value ∧ next value = .error fault := by
  cases first with
  | error cause =>
      constructor
      · intro h
        injection h with h
        exact .inl (congrArg Except.error h)
      · rintro (h | ⟨value, h, -⟩)
        · injection h with h
          exact congrArg Except.error h
        · cases h
  | ok value =>
      constructor
      · intro h
        exact .inr ⟨value, rfl, h⟩
      · rintro (h | ⟨_, hvalue, hnext⟩)
        · cases h
        · injection hvalue with hvalue
          rw [hvalue]
          exact hnext

theorem mapError_eq_ok
    {ε ε' α : Type} {outcome : Except ε α} {change : ε → ε'} {result : α} :
    outcome.mapError change = .ok result ↔ outcome = .ok result := by
  cases outcome with
  | error fault => simp [Except.mapError]
  | ok value => simp [Except.mapError]

theorem mapError_eq_error
    {ε ε' α : Type} {outcome : Except ε α} {change : ε → ε'} {fault : ε'} :
    outcome.mapError change = .error fault ↔
      ∃ cause, outcome = .error cause ∧ change cause = fault := by
  cases outcome with
  | error cause => simp [Except.mapError]
  | ok value => simp [Except.mapError]

theorem toOption_eq_some {ε α : Type} {outcome : Except ε α} {result : α} :
    outcome.toOption = some result ↔ outcome = .ok result := by
  cases outcome with
  | error fault => simp [Except.toOption]
  | ok value => simp [Except.toOption]

theorem unless_throw_eq_ok
    {ε α β : Type} {test : Prop} [Decidable test] {fault : ε} {after : β → Except ε α}
    {next : Except ε α} {result : α} :
    (if test then throw fault >>= after else next) = .ok result ↔ ¬ test ∧ next = .ok result := by
  by_cases htest : test
  · rw [if_pos htest]
    constructor
    · intro h
      cases h
    · exact fun h => absurd htest h.1
  · simp [htest]

theorem unless_throw_eq_error
    {ε α β : Type} {test : Prop} [Decidable test] {rejection fault : ε} {after : β → Except ε α}
    {next : Except ε α} :
    (if test then throw rejection >>= after else next) = .error fault ↔
      test ∧ rejection = fault ∨ ¬ test ∧ next = .error fault := by
  by_cases htest : test
  · rw [if_pos htest]
    constructor
    · intro h
      injection h with h
      exact .inl ⟨htest, h⟩
    · rintro (⟨-, h⟩ | ⟨h, -⟩)
      · exact congrArg Except.error h
      · exact absurd htest h
  · simp [htest]

/-! ## Three fields -/

namespace Text

theorem fields_eq_singleton
    {α : Type} [DecidableEq α] {separator : α} {row field : List α} :
    fields separator row = [field] ↔ row = field ∧ separator ∉ field := by
  constructor
  · intro hfields
    by_cases hmem : separator ∈ row
    · obtain ⟨head, tail, rfl, hhead⟩ := List.eq_append_cons_of_mem hmem
      rw [fields_append_cons hhead, List.cons.injEq] at hfields
      exact absurd hfields.2 (fields_ne_nil separator tail)
    · rw [fields_of_not_mem hmem, List.cons.injEq] at hfields
      exact ⟨hfields.1, hfields.1 ▸ hmem⟩
  · rintro ⟨rfl, hmem⟩
    exact fields_of_not_mem hmem

theorem fields_eq_cons
    {α : Type} [DecidableEq α] {separator : α} {row field next : List α} {more : List (List α)} :
    fields separator row = field :: next :: more ↔
      ∃ rest, row = field ++ separator :: rest ∧ separator ∉ field ∧
        fields separator rest = next :: more := by
  constructor
  · intro hfields
    by_cases hmem : separator ∈ row
    · obtain ⟨head, tail, rfl, hhead⟩ := List.eq_append_cons_of_mem hmem
      rw [fields_append_cons hhead, List.cons.injEq] at hfields
      obtain ⟨rfl, hrest⟩ := hfields
      exact ⟨tail, rfl, hhead, hrest⟩
    · rw [fields_of_not_mem hmem] at hfields
      simp at hfields
  · rintro ⟨rest, rfl, hfield, hrest⟩
    rw [fields_append_cons hfield, hrest]

end Text

namespace Token

/-- Three segments without points. -/
structure Segments where
  head : List Char
  body : List Char
  tail : List Char
  pointFree : '.' ∉ head ∧ '.' ∉ body ∧ '.' ∉ tail

namespace Segments

def signed (segments : Segments) : List Char :=
  segments.head ++ '.' :: segments.body

def text (segments : Segments) : List Char :=
  segments.signed ++ '.' :: segments.tail

theorem count_point_text (segments : Segments) : segments.text.count '.' = 2 := by
  obtain ⟨hhead, hbody, htail⟩ := segments.pointFree
  simp [text, signed, List.count_append, List.count_eq_zero_of_not_mem hhead,
    List.count_eq_zero_of_not_mem hbody, List.count_eq_zero_of_not_mem htail]

theorem fields_text (segments : Segments) :
    Text.fields '.' segments.text = [segments.head, segments.body, segments.tail] := by
  obtain ⟨hhead, hbody, htail⟩ := segments.pointFree
  rw [text, signed, List.append_assoc, List.cons_append, Text.fields_append_cons hhead,
    Text.fields_append_cons hbody, Text.fields_of_not_mem htail]

theorem exists_of_fields {cs head body tail : List Char}
    (hfields : Text.fields '.' cs = [head, body, tail]) :
    ∃ segments : Segments,
      cs = segments.text ∧ segments.head = head ∧ segments.body = body ∧ segments.tail = tail := by
  obtain ⟨afterHead, rfl, hhead, hfields⟩ := Text.fields_eq_cons.mp hfields
  obtain ⟨afterBody, rfl, hbody, hfields⟩ := Text.fields_eq_cons.mp hfields
  obtain ⟨rfl, htail⟩ := Text.fields_eq_singleton.mp hfields
  refine ⟨⟨head, body, afterBody, hhead, hbody, htail⟩, ?_, rfl, rfl, rfl⟩
  rw [text, signed, List.append_assoc, List.cons_append]

end Segments

/-! ## Opening -/

theorem objectOf?_eq_some {bytes : List UInt8} {value : Json} :
    objectOf? bytes = some value ↔
      ∃ cs, Text.Utf8.decode bytes = .ok cs ∧ Json.read cs = .ok value ∧
        value.isObject = true := by
  simp [objectOf?, Option.bind_eq_some_iff, toOption_eq_some, guard]

/-- The parts of the token are the decoded segments. -/
structure Opens (segments : Segments) (opened : Opened) : Prop where
  header : ∃ bytes, Base64.decode (Text.Utf8.encode segments.head) = .ok bytes ∧
    objectOf? bytes = some opened.header
  signed : opened.signed = Text.Utf8.encode segments.signed
  payload : Base64.decode (Text.Utf8.encode segments.body) = .ok opened.payload
  signature : Base64.decode (Text.Utf8.encode segments.tail) = .ok opened.signature

theorem encode_signed (segments : Segments) :
    Text.Utf8.encode segments.signed =
      Text.Utf8.encode segments.head ++ 0x2E :: Text.Utf8.encode segments.body := by
  rw [Segments.signed, Text.Utf8.encode_append, Text.Utf8.encode_cons]
  rfl

theorem openToken_eq_ok {token : String} {opened : Opened} :
    openToken token = .ok opened ↔
      ∃ segments : Segments, token.toList = segments.text ∧ Opens segments opened := by
  constructor
  · intro hopen
    unfold openToken at hopen
    rw [Text.Utf8.fields_encode] at hopen
    split at hopen
    next head body tail hfields =>
      obtain ⟨headText, _, hsplit, rfl, hbody⟩ := List.map_eq_cons_iff.mp hfields
      obtain ⟨bodyText, _, rfl, rfl, htail⟩ := List.map_eq_cons_iff.mp hbody
      obtain ⟨tailText, _, rfl, rfl, hnil⟩ := List.map_eq_cons_iff.mp htail
      rw [List.map_eq_nil_iff.mp hnil] at hsplit
      obtain ⟨segments, htoken, rfl, rfl, rfl⟩ := Segments.exists_of_fields hsplit
      refine ⟨segments, htoken, ?_⟩
      dsimp only at hopen
      split at hopen
      next parts hparts =>
        injection hopen with hopen
        simp only [Option.pure_def, Option.bind_eq_bind, Option.bind_eq_some_iff,
          Option.some.injEq, toOption_eq_some] at hparts
        obtain ⟨header, ⟨bytes, hhead, hheader⟩, payload, hbody, signature, htail, hparts⟩ := hparts
        rw [← hopen, ← hparts]
        exact ⟨⟨bytes, hhead, hheader⟩, (encode_signed segments).symm, hbody, htail⟩
      next => cases hopen
    next => cases hopen
  · rintro ⟨segments, htoken, hopens⟩
    obtain ⟨bytes, hhead, hheader⟩ := hopens.header
    have hsigned := hopens.signed
    rw [encode_signed] at hsigned
    rw [openToken, Text.Utf8.fields_encode, htoken, segments.fields_text]
    simp only [List.map_cons, List.map_nil, hhead, hopens.payload, hopens.signature,
      Except.toOption, Option.bind_some, hheader, ← hsigned]
    rfl

/-! ## Verification as a row of tests -/

namespace Issuer

theorem verifiedPayload_eq_ok {issuer : Issuer} {token : String} {payload : Json} :
    issuer.verifiedPayload token = .ok payload ↔
      ∃ opened, openToken token = .ok opened ∧
        ((opened.header.member? "alg").getD .null).text? = some algorithm ∧
        signedBy issuer.secret opened.signed opened.signature = .ok true ∧
        readPayload opened.payload = .ok payload := by
  unfold verifiedPayload
  simp only [bind_eq_ok, mapError_eq_ok, unless_throw_eq_ok, ne_eq, Decidable.not_not]
  constructor
  · rintro ⟨opened, hopen, halgorithm, signed, hsigned, hpayload⟩
    cases signed with
    | false => cases hpayload
    | true => exact ⟨opened, hopen, halgorithm, hsigned, hpayload⟩
  · rintro ⟨opened, hopen, halgorithm, hsigned, hpayload⟩
    exact ⟨opened, hopen, halgorithm, true, hsigned, hpayload⟩

theorem validate_eq_ok
    {issuer : Issuer} {now : Moment} {kind : Kind} {token : String} {claims : Claims} :
    issuer.validate now kind token = .ok claims ↔
      ∃ payload, issuer.verifiedPayload token = .ok payload ∧
        checkRegistered now.second payload = .ok () ∧
        (payload.member? "typ").bind Json.text? = some kind.name ∧
        Claims.ofPayload payload = .ok claims := by
  unfold validate
  simp only [bind_eq_ok, unless_throw_eq_ok, ne_eq, Decidable.not_not]
  constructor
  · rintro ⟨payload, hpayload, _, hregistered, hkind, hclaims⟩
    exact ⟨payload, hpayload, hregistered, hkind, hclaims⟩
  · rintro ⟨payload, hpayload, hregistered, hkind, hclaims⟩
    exact ⟨payload, hpayload, (), hregistered, hkind, hclaims⟩

end Issuer

/-! ## Plain secrets -/

theorem signingKey_of_plain {secret : String} (hplain : isPlainSecret secret = true) :
    signingKey secret = .ok (Text.Utf8.encode secret.toList) := by
  unfold isPlainSecret at hplain
  simp only [Bool.and_eq_true, Bool.not_eq_true'] at hplain
  rw [signingKey, hplain.2]
  rfl

theorem candidates_of_plain {secret : String} (hplain : isPlainSecret secret = true) :
    candidates secret = .ok [.text secret] := by
  unfold isPlainSecret at hplain
  rw [Bool.and_eq_true] at hplain
  unfold candidates
  cases hread : Json.readWith .spellings Json.nestingLimit secret.toList with
  | ok value =>
      rw [hread] at hplain
      cases hplain.1
  | error fault => rfl

theorem keyOf_of_plain {secret : String} (hplain : isPlainSecret secret = true) :
    keyOf (.text secret) = .ok (Text.Utf8.encode secret.toList) := by
  unfold isPlainSecret at hplain
  simp only [Bool.and_eq_true, Bool.not_eq_true'] at hplain
  rw [Json.text, keyOf, keyOfString, hplain.2]
  rfl

/-- A plain secret verifies with the bytes with which it signs. -/
theorem signedBy_of_plain
    {secret : String} (hplain : isPlainSecret secret = true) (signed signature : List UInt8) :
    signedBy secret signed signature =
      .ok (decide (Hmac.sign (Text.Utf8.encode secret.toList) signed = signature)) := by
  rw [signedBy, candidates_of_plain hplain]
  simp only [signedByOne, keyOf_of_plain hplain]
  by_cases hsame : Hmac.sign (Text.Utf8.encode secret.toList) signed = signature
  · rw [if_pos hsame, decide_eq_true hsame]
  · rw [if_neg hsame, decide_eq_false hsame]

/-! ## Signed tokens -/

theorem legible_header : Json.Legible Json.nestingLimit header := by
  have hnodup : (["alg", "typ"] : List String).Nodup := by decide
  change Json.Legible (969 + 1) header
  refine .record hnodup ?_
  intro member hmember
  simp only [List.mem_cons, List.not_mem_nil, or_false] at hmember
  rcases hmember with rfl | rfl
  · exact .text algorithm
  · exact .text "JWT"

theorem legible_payload
    (userId : Int) (email : Option String) (tokenId : String) (kind : Kind) (issued expires : Moment) :
    Json.Legible Json.nestingLimit
      (payload userId email tokenId kind (epochSeconds issued) (epochSeconds expires)) := by
  have hnodup : (["sub", "email", "jti", "typ", "iat", "nbf", "exp"] : List String).Nodup := by
    decide
  have hissued := natAbs_epochSeconds_lt issued
  have hexpires := natAbs_epochSeconds_lt expires
  change Json.Legible (969 + 1) _
  refine .record hnodup ?_
  intro member hmember
  simp only [List.mem_cons, List.not_mem_nil, or_false] at hmember
  rcases hmember with rfl | rfl | rfl | rfl | rfl | rfl | rfl
  · exact .text _
  · cases email with
    | none => exact .null
    | some email => exact .text email
  · exact .text tokenId
  · exact .text kind.name
  · exact .int hissued
  · exact .int hissued
  · exact .int hexpires

theorem decode_segment (value : Json) :
    Base64.decode (Text.Utf8.encode (segment value)) = .ok (Text.Utf8.encode value.write) :=
  Base64.decode_encode _

theorem readPayload_write
    {value : Json} (hlegible : Json.Legible Json.nestingLimit value)
    (hobject : value.isObject = true) :
    readPayload (Text.Utf8.encode value.write) = .ok value := by
  simp only [readPayload, Text.Utf8.decode_encode, Json.read_write hlegible, hobject, if_true]

def signedSegments (key : List UInt8) (payload : Json) : Segments where
  head := segment header
  body := segment payload
  tail := Base64.encode
    (Hmac.sign key (Text.Utf8.encode (segment header ++ '.' :: segment payload)))
  pointFree := ⟨Base64.point_not_mem_encode _, Base64.point_not_mem_encode _,
    Base64.point_not_mem_encode _⟩

theorem sign_eq_ok {secret token : String} {payload : Json} :
    sign secret payload = .ok token ↔
      ∃ key, signingKey secret = .ok key ∧
        token = String.ofList (signedSegments key payload).text := by
  unfold sign
  cases hkey : signingKey secret with
  | error cause => simp
  | ok key => simp [signedSegments, Segments.text, Segments.signed, eq_comm]

def signedParts (key : List UInt8) (payload : Json) : Opened where
  header := header
  signed := Text.Utf8.encode (signedSegments key payload).signed
  payload := Text.Utf8.encode payload.write
  signature := Hmac.sign key (Text.Utf8.encode (signedSegments key payload).signed)

theorem openToken_signed (key : List UInt8) (payload : Json) :
    openToken (String.ofList (signedSegments key payload).text) =
      .ok (signedParts key payload) := by
  refine openToken_eq_ok.mpr ⟨signedSegments key payload, String.toList_ofList, ?_⟩
  refine ⟨⟨_, decode_segment header, ?_⟩, rfl, decode_segment payload, Base64.decode_encode _⟩
  rw [objectOf?_eq_some]
  exact ⟨header.write, Text.Utf8.decode_encode _, Json.read_write legible_header, rfl⟩

/-- Whatever the secret is, a token that it signed can only be read as its payload. -/
theorem eq_of_verifiedPayload_sign
    {issuer : Issuer} {token : String} {payload found : Json}
    (hlegible : Json.Legible Json.nestingLimit payload) (hobject : payload.isObject = true)
    (hsign : sign issuer.secret payload = .ok token)
    (hfound : issuer.verifiedPayload token = .ok found) :
    found = payload := by
  obtain ⟨key, -, rfl⟩ := sign_eq_ok.mp hsign
  obtain ⟨opened, hopen, -, -, hread⟩ := Issuer.verifiedPayload_eq_ok.mp hfound
  rw [openToken_signed] at hopen
  rw [← Except.ok.inj hopen, signedParts, readPayload_write hlegible hobject] at hread
  exact (Except.ok.inj hread).symm

theorem exists_sign_of_plain {secret : String} (hplain : isPlainSecret secret = true)
    (payload : Json) :
    ∃ token, sign secret payload = .ok token :=
  ⟨_, sign_eq_ok.mpr ⟨_, signingKey_of_plain hplain, rfl⟩⟩

/-- A plain secret accepts the tokens that it signed. -/
theorem verifiedPayload_sign
    {issuer : Issuer} (hplain : isPlainSecret issuer.secret = true) {token : String}
    {payload : Json} (hlegible : Json.Legible Json.nestingLimit payload)
    (hobject : payload.isObject = true) (hsign : sign issuer.secret payload = .ok token) :
    issuer.verifiedPayload token = .ok payload := by
  obtain ⟨key, hkey, rfl⟩ := sign_eq_ok.mp hsign
  rw [signingKey_of_plain hplain] at hkey
  refine Issuer.verifiedPayload_eq_ok.mpr ⟨_, openToken_signed _ payload, rfl, ?_, ?_⟩
  · rw [signedBy_of_plain hplain, signedParts, Except.ok.inj hkey, decide_eq_true rfl]
  · exact readPayload_write hlegible hobject

end Token

end AccountSessions
