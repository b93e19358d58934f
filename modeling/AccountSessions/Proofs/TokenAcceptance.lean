import AccountSessions.Proofs.IssuedTokens

/-!
# What an accepted token is

Acceptance is described without the verifier: three segments, a header that names the
algorithm, a last segment that is the digest of the raw text before it, and a payload
that says what the claims say.  Every text that is validated under a plain secret is of
this form, however its segments are encoded and whatever else they hold.
-/

namespace AccountSessions.Token

def Spells (segment : List Char) (object : Json) : Prop :=
  ∃ bytes cs, Base64.decode (Text.Utf8.encode segment) = .ok bytes ∧
    Text.Utf8.decode bytes = .ok cs ∧ Json.read cs = .ok object ∧ object.isObject = true

/-- The middle segment of the token spells the payload. -/
def Holds (token : String) (payload : Json) : Prop :=
  ∃ segments : Segments, token.toList = segments.text ∧ Spells segments.body payload

/-- The member is a finite number that converts to the moment and has so many whole
seconds. -/
def TimeMember (payload : Json) (name : String) (moment : Moment) (whole : Int) : Prop :=
  ∃ value, payload.member? name = some value ∧ Claims.momentOf value = .ok moment ∧
    wholeSeconds? value = some whole

/-- The payload says what the claims say, and the times around the current second. -/
structure Vouches (payload : Json) (kind : Kind) (now : Moment) (claims : Claims) : Prop where
  mark : payload.member? "typ" = some (.text kind.name)
  subject : ∃ digits, payload.member? "sub" = some (.text digits) ∧
    Claims.isDigits digits = true ∧ WholeNumber.read digits.toList = .ok claims.userId
  email : payload.member? "email" = some (.string claims.email) ∧ claims.email.isEmpty = false
  tokenId : payload.member? "jti" = some (.string claims.tokenId) ∧
    claims.tokenId.isEmpty = false
  tokenType : claims.tokenType = .text kind.name
  times : ∃ issued notBefore expires,
    TimeMember payload "iat" claims.issuedAt issued ∧
    TimeMember payload "nbf" claims.notBefore notBefore ∧
    TimeMember payload "exp" claims.expiresAt expires ∧
    notBefore ≤ now.second ∧ now.second ≤ expires

structure Accepted (secret : String) (kind : Kind) (now : Moment) (segments : Segments)
    (claims : Claims) : Prop where
  header : ∃ header, Spells segments.head header ∧ header.member? "alg" = some (.text "HS256")
  signature : Base64.decode (Text.Utf8.encode segments.tail) =
    .ok (Hmac.sign (Text.Utf8.encode secret.toList) (Text.Utf8.encode segments.signed))
  payload : ∃ payload, Spells segments.body payload ∧ Vouches payload kind now claims

/-! ## Payloads -/

theorem readPayload_eq_ok {bytes : List UInt8} {payload : Json}
    (hread : readPayload bytes = .ok payload) :
    ∃ cs, Text.Utf8.decode bytes = .ok cs ∧ Json.read cs = .ok payload ∧
      payload.isObject = true := by
  unfold readPayload at hread
  split at hread
  next => cases hread
  next cs hcs =>
    split at hread
    next => cases hread
    next => cases hread
    next value hvalue =>
      by_cases hobject : value.isObject = true
      · rw [if_pos hobject] at hread
        injection hread with hread
        rw [← hread]
        exact ⟨cs, hcs, hvalue, hobject⟩
      · rw [if_neg hobject] at hread
        cases hread

/-- A signed token holds what it was signed for. -/
theorem Grant.holds_of_sign
    {secret token : String} {grant : Grant} (hsign : sign secret grant.payload = .ok token) :
    Holds token grant.payload := by
  obtain ⟨key, -, htoken⟩ := sign_eq_ok.mp hsign
  refine ⟨signedSegments key grant.payload, by rw [htoken, String.toList_ofList], ?_⟩
  exact ⟨_, grant.payload.write, decode_segment _, Text.Utf8.decode_encode _,
    Json.read_write grant.legible_payload, rfl⟩

theorem exists_timeMember {payload : Json} {name : String} {moment : Moment}
    (hclaim : Claims.momentClaim payload name = .ok moment) :
    ∃ whole, TimeMember payload name moment whole := by
  obtain ⟨value, hmember, hmoment⟩ := momentClaim_eq_ok.mp hclaim
  obtain ⟨whole, hwhole⟩ := exists_wholeSeconds?_of_momentOf hmoment
  exact ⟨whole, value, hmember, hmoment, hwhole⟩

theorem TimeMember.eq_of_wholeClaim
    {payload : Json} {name : String} {moment : Moment} {whole : Int}
    (hmember : TimeMember payload name moment whole) {label : String} {seen : Int}
    (hseen : wholeClaim label ((payload.member? name).getD .null) = .ok seen) :
    seen = whole := by
  obtain ⟨value, hvalue, -, hwhole⟩ := hmember
  rw [hvalue, Option.getD_some, wholeClaim_of_wholeSeconds? hwhole] at hseen
  injection hseen with hseen
  exact hseen.symm

theorem vouches_of_checks
    {payload : Json} {kind : Kind} {now : Moment} {claims : Claims}
    (hregistered : checkRegistered now.second payload = .ok ())
    (hkind : (payload.member? "typ").bind Json.text? = some kind.name)
    (hclaims : Claims.ofPayload payload = .ok claims) :
    Vouches payload kind now claims := by
  obtain ⟨subject, hsubject, hnumber, hemail, htokenId, hissued, hbefore, hexpires, -⟩ :=
    ofPayload_eq_ok.mp hclaims
  obtain ⟨-, htimes, -⟩ := checkRegistered_eq_ok.mp hregistered
  obtain ⟨_, seenBefore, seenExpires, -, hseenBefore, hseenExpires, hstarted, hlasts⟩ :=
    checkTimes_eq_ok.mp htimes
  obtain ⟨issued, hissued⟩ := exists_timeMember hissued
  obtain ⟨notBefore, hbefore⟩ := exists_timeMember hbefore
  obtain ⟨expires, hexpires⟩ := exists_timeMember hexpires
  rw [hbefore.eq_of_wholeClaim hseenBefore] at hstarted
  rw [hexpires.eq_of_wholeClaim hseenExpires] at hlasts
  exact
    { mark := text?_bind_eq_some.mp hkind
      subject := ⟨subject, (subject?_eq_some.mp hsubject).1, (subject?_eq_some.mp hsubject).2,
        hnumber⟩
      email := textClaim?_eq_some.mp hemail
      tokenId := textClaim?_eq_some.mp htokenId
      tokenType := tokenType_of_ofPayload hkind hclaims
      times := ⟨issued, notBefore, expires, hissued, hbefore, hexpires, hstarted, hlasts⟩ }

/-! ## Tokens -/

/-- The kind is in the payload, so no token has two of them. -/
theorem kind_unique
    {issuer : Issuer} {token : String} {first second : Kind} {now later : Moment}
    {claims others : Claims} (hfirst : issuer.validate now first token = .ok claims)
    (hsecond : issuer.validate later second token = .ok others) :
    first = second := by
  obtain ⟨payload, hpayload, -, hkind, -⟩ := Issuer.validate_eq_ok.mp hfirst
  obtain ⟨payload', hpayload', -, hkind', -⟩ := Issuer.validate_eq_ok.mp hsecond
  rw [hpayload] at hpayload'
  injection hpayload' with hsame
  rw [← hsame, hkind] at hkind'
  cases first <;> cases second <;> simp [Kind.name] at hkind' ⊢

theorem accepted_of_validate
    {issuer : Issuer} (hplain : isPlainSecret issuer.secret = true)
    {now : Moment} {kind : Kind} {token : String} {claims : Claims}
    (hvalid : issuer.validate now kind token = .ok claims) :
    token.toList.count '.' = 2 ∧
      (∃ segments : Segments, token.toList = segments.text ∧
        Accepted issuer.secret kind now segments claims) ∧
      ∀ other, other ≠ kind → ∀ moment found, issuer.validate moment other token ≠ .ok found := by
  obtain ⟨payload, hpayload, hregistered, hkind, hclaims⟩ := Issuer.validate_eq_ok.mp hvalid
  obtain ⟨opened, hopen, halgorithm, hsigned, hread⟩ :=
    Issuer.verifiedPayload_eq_ok.mp hpayload
  obtain ⟨segments, htoken, hopens⟩ := openToken_eq_ok.mp hopen
  refine ⟨htoken ▸ segments.count_point_text, ⟨segments, htoken, ?_, ?_, ?_⟩, ?_⟩
  · obtain ⟨bytes, hbytes, hobject⟩ := hopens.header
    obtain ⟨cs, hcs, hjson, hisObject⟩ := objectOf?_eq_some.mp hobject
    refine ⟨opened.header, ⟨bytes, cs, hbytes, hcs, hjson, hisObject⟩, ?_⟩
    cases hmember : opened.header.member? "alg" with
    | none =>
        rw [hmember] at halgorithm
        cases halgorithm
    | some value =>
        rw [hmember, Option.getD_some] at halgorithm
        exact text?_bind_eq_some.mp halgorithm
  · rw [signedBy_of_plain hplain, Except.ok.injEq, decide_eq_true_eq, hopens.signed] at hsigned
    rw [hsigned]
    exact hopens.signature
  · obtain ⟨cs, hcs, hjson, hisObject⟩ := readPayload_eq_ok hread
    exact ⟨payload, ⟨opened.payload, cs, hopens.payload, hcs, hjson, hisObject⟩,
      vouches_of_checks hregistered hkind hclaims⟩
  · intro other hother moment found hfound
    exact hother (kind_unique hfound hvalid)

/-- A fresh refresh token is accepted and has the form. -/
theorem accepted_of_validate_fresh :
    ∃ token claims,
      Issuer.validate ⟨"keep it", .ofSeconds 900, .ofSeconds 604800⟩ { micros := 1700000000000000 }
        .refresh token = .ok claims ∧
      token.toList.count '.' = 2 ∧
      (∃ segments : Segments, token.toList = segments.text ∧
        Accepted "keep it" .refresh { micros := 1700000000000000 } segments claims) ∧
      ∀ other, other ≠ .refresh → ∀ moment found,
        Issuer.validate ⟨"keep it", .ofSeconds 900, .ofSeconds 604800⟩ moment other token ≠
          .ok found := by
  have hkeep : isPlainSecret "keep it" = true := by decide +kernel
  let now : Moment := { micros := 1700000000000000 }
  let stop : Moment := { micros := 1700604800000000 }
  let issuer : Issuer := ⟨"keep it", .ofSeconds 900, .ofSeconds 604800⟩
  have hplain : isPlainSecret issuer.secret = true := hkeep
  let grant : Grant := ⟨.refresh, 7, "seven@example.org", "1f", now, stop⟩
  have hnow : epochSeconds now = now.second := epochSeconds_eq_second ⟨by decide, by decide⟩
  have hlast : epochSeconds stop = stop.second := epochSeconds_eq_second ⟨by decide, by decide⟩
  have hreadable : grant.Readable :=
    ⟨by decide, fewDigits_of_lt_word (by decide), by decide, by decide⟩
  obtain ⟨token, hsign⟩ := exists_sign_of_plain hkeep grant.payload
  have hpayload := verifiedPayload_sign hplain grant.legible_payload rfl hsign
  have hstart : Claims.momentOf (.int (epochSeconds grant.issued)) = .ok now.startOfSecond := by
    rw [hnow, momentOf_second (by decide)]
  have hstop : Claims.momentOf (.int (epochSeconds grant.expires)) = .ok stop.startOfSecond := by
    rw [hlast, momentOf_second (by decide)]
  have hfrom : epochSeconds grant.issued ≤ now.second := by rw [hnow]
  have huntil : now.second ≤ epochSeconds grant.expires := by
    rw [hlast]
    decide
  have hvalid := Issuer.validate_grant hpayload hreadable hstart hstop hfrom huntil
  have haccepted := accepted_of_validate hplain hvalid
  exact ⟨token, _, hvalid, haccepted⟩

end AccountSessions.Token
