import AccountSessions.Proofs.Digits
import AccountSessions.Proofs.TokenAcceptance

/-!
# Where the examination of a token breaks down

Most flaws of a signed payload are rejected.  Some are not: times that are no numbers at
all or lie beyond the calendar of the system, subjects whose digits spell no number, and
texts that are nested too deep break the examination down.  These are all of them, and
which one is met is told by the payload and the current second alone.
-/

namespace AccountSessions

namespace Token

/-! ## The registered times -/

/-- The whole number that a value is or spells. -/
def whole? : Json → Option Int
  | .int value => some value
  | .bool value => some (if value then 1 else 0)
  | .real value => value.truncate?
  | .string (.plain text) => (WholeNumber.read text.toList).toOption
  | _ => none

/-- Why a value cannot be converted to a whole number at all. -/
inductive Unconvertible : Json → Breakdown → Prop where
  | infinite (negative : Bool) : Unconvertible (.real (.infinite negative)) .infiniteNumber
  | null : Unconvertible .null (.notNumeric Json.null.kindName)
  | list (items : List Json) : Unconvertible (.list items) (.notNumeric (Json.list items).kindName)
  | object (members : List (JsonString × Json)) :
      Unconvertible (.object members) (.notNumeric (Json.object members).kindName)

theorem wholeClaim_eq_ok {label : String} {value : Json} {whole : Int} :
    wholeClaim label value = .ok whole ↔ whole? value = some whole := by
  cases value with
  | int seconds => simp [wholeClaim, whole?]
  | bool flag => simp [wholeClaim, whole?]
  | real value =>
      cases value with
      | finite negative mantissa exponent => simp [wholeClaim, whole?, Binary64.truncate?]
      | infinite negative => simp [wholeClaim, whole?, Binary64.truncate?]
      | notANumber => simp [wholeClaim, whole?, Binary64.truncate?]
  | string value =>
      cases value with
      | plain text =>
          simp only [wholeClaim, whole?]
          cases WholeNumber.read text.toList with
          | ok seconds => simp [Except.toOption]
          | error fault => simp [Except.toOption]
      | broken codes => simp [wholeClaim, whole?]
  | null | list | object => simp [wholeClaim, whole?]

theorem wholeClaim_eq_broken {label : String} {value : Json} {cause : Breakdown} :
    wholeClaim label value = .error (.broken cause) ↔ Unconvertible value cause := by
  constructor
  · intro h
    cases value with
    | real value =>
        cases value with
        | infinite negative =>
            injection h with h
            injection h with h
            rw [← h]
            exact .infinite negative
        | finite | notANumber => cases h
    | null =>
        injection h with h
        injection h with h
        rw [← h]
        exact .null
    | list items =>
        injection h with h
        injection h with h
        rw [← h]
        exact .list items
    | object members =>
        injection h with h
        injection h with h
        rw [← h]
        exact .object members
    | int | bool => cases h
    | string value =>
        cases value with
        | broken codes => cases h
        | plain text =>
            simp only [wholeClaim] at h
            split at h
            next => cases h
            next => cases h
  · rintro ⟨⟩
    · rfl
    · rfl
    · rfl
    · rfl

/-- The claim of a time, which is null where it is missing. -/
def timeOf (payload : Json) (name : String) : Json :=
  (payload.member? name).getD .null

/-- The first of the times that is looked at and cannot be converted. -/
inductive TimesDerail (now : Int) (payload : Json) (cause : Breakdown) : Prop where
  | issued (hissued : Unconvertible (timeOf payload "iat") cause)
  | notBefore {issued : Int} (hissued : whole? (timeOf payload "iat") = some issued)
      (hbefore : Unconvertible (timeOf payload "nbf") cause)
  | expires {issued notBefore : Int} (hissued : whole? (timeOf payload "iat") = some issued)
      (hbefore : whole? (timeOf payload "nbf") = some notBefore) (hstarted : notBefore ≤ now)
      (hexpires : Unconvertible (timeOf payload "exp") cause)

theorem checkTimes_eq_broken {now : Int} {payload : Json} {cause : Breakdown} :
    checkTimes now payload = .error (.broken cause) ↔ TimesDerail now payload cause := by
  unfold checkTimes
  simp only [bind_eq_error, wholeClaim_eq_broken, wholeClaim_eq_ok, unless_throw_eq_error]
  constructor
  · rintro (hissued | ⟨issued, hissued, hbefore | ⟨notBefore, hbefore,
      ⟨-, hrejected⟩ | ⟨hstarted, hexpires | ⟨expires, hexpires, hlast⟩⟩⟩⟩)
    · exact .issued hissued
    · exact .notBefore hissued hbefore
    · cases hrejected
    · exact .expires hissued hbefore (Int.not_lt.mp hstarted) hexpires
    · split at hlast
      next => cases hlast
      next => cases hlast
  · rintro (hissued | ⟨hissued, hbefore⟩ | ⟨hissued, hbefore, hstarted, hexpires⟩)
    · exact .inl hissued
    · exact .inr ⟨_, hissued, .inl hbefore⟩
    · exact .inr ⟨_, hissued, .inr ⟨_, hbefore, .inr ⟨Int.not_lt.mpr hstarted, .inl hexpires⟩⟩⟩

theorem checkRegistered_eq_broken {now : Int} {payload : Json} {cause : Breakdown} :
    checkRegistered now payload = .error (.broken cause) ↔
      missingClaim? payload = none ∧ TimesDerail now payload cause := by
  rw [← checkTimes_eq_broken]
  unfold checkRegistered
  cases missingClaim? payload with
  | some name =>
      constructor
      · intro h
        cases h
      · rintro ⟨h, -⟩
        cases h
  | none =>
      simp only [bind_eq_error]
      constructor
      · rintro (htimes | ⟨_, -, hother⟩)
        · exact ⟨trivial, htimes⟩
        · split at hother
          next => cases hother
          next => cases hother
      · rintro ⟨-, htimes⟩
        exact .inl htimes

/-! ## The claims -/

namespace Claims

/-- A number whose whole part is a number of seconds in 64 bits, but beyond the calendar
of the system. -/
def BeyondCalendar (value : Json) : Prop :=
  ∃ seconds, wholeSeconds? value = some seconds ∧ WholeNumber.fitsWord seconds = true ∧
    (latestSystemSecond < seconds ∨ seconds < earliestSystemSecond)

theorem momentOfSeconds_eq_broken {seconds micros : Int} {cause : Breakdown} :
    momentOfSeconds seconds micros = .error (.broken cause) ↔
      cause = .systemCalendarExceeded ∧ WholeNumber.fitsWord seconds = true ∧
        (latestSystemSecond < seconds ∨ seconds < earliestSystemSecond) := by
  unfold momentOfSeconds
  by_cases hfits : WholeNumber.fitsWord seconds = true
  · by_cases hbeyond : latestSystemSecond < seconds ∨ seconds < earliestSystemSecond
    · simp [hfits, hbeyond, eq_comm]
    · cases Moment.ofMicros? (seconds * Duration.microsPerSecond + micros) with
      | none => simp [hfits, hbeyond]
      | some moment => simp [hfits, hbeyond]
  · simp [hfits]

theorem momentOf_eq_broken {value : Json} {cause : Breakdown} :
    momentOf value = .error (.broken cause) ↔
      cause = .systemCalendarExceeded ∧ BeyondCalendar value := by
  cases value with
  | int seconds => simp [momentOf, momentOfSeconds_eq_broken, BeyondCalendar, wholeSeconds?]
  | real value =>
      cases value with
      | finite negative mantissa exponent =>
          cases negative with
          | false =>
              simp [momentOf, momentOfSeconds_eq_broken, BeyondCalendar, wholeSeconds?,
                Binary64.truncate?]
          | true =>
              simp [momentOf, momentOfSeconds_eq_broken, BeyondCalendar, wholeSeconds?,
                Binary64.truncate?]
      | infinite | notANumber =>
          simp [momentOf, BeyondCalendar, wholeSeconds?, Binary64.truncate?]
  | null | bool | string | list | object => simp [momentOf, BeyondCalendar, wholeSeconds?]

def Beyond (payload : Json) (name : String) : Prop :=
  ∃ value, payload.member? name = some value ∧ BeyondCalendar value

def Dated (payload : Json) (name : String) : Prop :=
  ∃ value moment, payload.member? name = some value ∧ momentOf value = .ok moment

def AllDated (payload : Json) : Prop :=
  Dated payload "iat" ∧ Dated payload "nbf" ∧ Dated payload "exp"

theorem momentClaim_eq_broken {payload : Json} {name : String} {cause : Breakdown} :
    momentClaim payload name = .error (.broken cause) ↔
      cause = .systemCalendarExceeded ∧ Beyond payload name := by
  unfold momentClaim Beyond
  cases payload.member? name with
  | none => simp
  | some value => simp [momentOf_eq_broken]

theorem dated_of_momentClaim {payload : Json} {name : String} {moment : Moment}
    (hclaim : momentClaim payload name = .ok moment) :
    Dated payload name := by
  obtain ⟨value, hmember, hmoment⟩ := momentClaim_eq_ok.mp hclaim
  exact ⟨value, moment, hmember, hmoment⟩

theorem Dated.momentClaim {payload : Json} {name : String} (hdated : Dated payload name) :
    ∃ moment, momentClaim payload name = .ok moment := by
  obtain ⟨value, moment, hmember, hmoment⟩ := hdated
  exact ⟨moment, momentClaim_eq_ok.mpr ⟨value, hmember, hmoment⟩⟩

/-- The shapes that are checked before any claim is converted. -/
structure Shaped (payload : Json) (subject : String) : Prop where
  subject : payload.member? "sub" = some (.text subject) ∧ isDigits subject = true
  email : ∃ email, payload.member? "email" = some (.string email) ∧ email.isEmpty = false
  tokenId : ∃ tokenId, payload.member? "jti" = some (.string tokenId) ∧ tokenId.isEmpty = false

theorem isDigits_iff {subject : String} :
    isDigits subject = true ↔
      subject.toList ≠ [] ∧ ∀ c ∈ subject.toList, Text.isDigit c = true := by
  simp [isDigits]

theorem numberOf_eq_broken
    {subject : String} (hdigits : isDigits subject = true) {cause : Breakdown} :
    numberOf subject = .error (.broken cause) ↔
      WholeNumber.digitLimit < (Text.decimals subject.toList).length ∧
          cause = .notAWholeNumber (.plain subject)
            (.tooManyDigits (Text.decimals subject.toList).length) ∨
        (Text.decimals subject.toList).length ≤ WholeNumber.digitLimit ∧
          subject.toList.all Text.isDecimal = false ∧
          cause = .notAWholeNumber (.plain subject) .malformed := by
  obtain ⟨hne, hdigits⟩ := isDigits_iff.mp hdigits
  have hfault : numberOf subject = .error (.broken cause) ↔
      ∃ fault, WholeNumber.read subject.toList = .error fault ∧
        cause = .notAWholeNumber (.plain subject) fault := by
    unfold numberOf
    cases WholeNumber.read subject.toList with
    | ok value => simp
    | error fault => simp [eq_comm]
  rw [hfault]
  constructor
  · rintro ⟨fault, hread, rfl⟩
    rcases (WholeNumber.read_digits_eq_error hne hdigits).mp hread with
      ⟨hmany, rfl⟩ | ⟨hfew, hother, rfl⟩
    · exact .inl ⟨hmany, rfl⟩
    · exact .inr ⟨hfew, hother, rfl⟩
  · rintro (⟨hmany, rfl⟩ | ⟨hfew, hother, rfl⟩)
    · exact ⟨_, (WholeNumber.read_digits_eq_error hne hdigits).mpr (.inl ⟨hmany, rfl⟩), rfl⟩
    · exact ⟨_, (WholeNumber.read_digits_eq_error hne hdigits).mpr (.inr ⟨hfew, hother, rfl⟩), rfl⟩

theorem exists_numberOf_iff {subject : String} (hdigits : isDigits subject = true) :
    (∃ userId, numberOf subject = .ok userId) ↔
      (Text.decimals subject.toList).length ≤ WholeNumber.digitLimit ∧
        subject.toList.all Text.isDecimal = true := by
  obtain ⟨hne, hdigits⟩ := isDigits_iff.mp hdigits
  simp only [numberOf_eq_ok]
  obtain ⟨value, hread⟩ := WholeNumber.read_digits hne hdigits
  rw [hread]
  by_cases hmany : WholeNumber.digitLimit < (Text.decimals subject.toList).length
  · rw [if_pos hmany]
    simp [Nat.not_le.mpr hmany]
  · rw [if_neg hmany]
    cases subject.toList.all Text.isDecimal with
    | false => simp
    | true => simp [Nat.not_lt.mp hmany]

/-- The claims of a payload whose shapes are right cannot be converted. -/
inductive Derails (payload : Json) : Breakdown → Prop where
  | issued {subject : String} (hshaped : Shaped payload subject)
      (hissued : Beyond payload "iat") :
      Derails payload .systemCalendarExceeded
  | notBefore {subject : String} (hshaped : Shaped payload subject)
      (hissued : Dated payload "iat") (hbefore : Beyond payload "nbf") :
      Derails payload .systemCalendarExceeded
  | expires {subject : String} (hshaped : Shaped payload subject)
      (hissued : Dated payload "iat") (hbefore : Dated payload "nbf")
      (hexpires : Beyond payload "exp") :
      Derails payload .systemCalendarExceeded
  | manyDigits {subject : String} (hshaped : Shaped payload subject)
      (hdated : AllDated payload)
      (hmany : WholeNumber.digitLimit < (Text.decimals subject.toList).length) :
      Derails payload
        (.notAWholeNumber (.plain subject)
          (.tooManyDigits (Text.decimals subject.toList).length))
  | otherDigits {subject : String} (hshaped : Shaped payload subject)
      (hdated : AllDated payload)
      (hfew : (Text.decimals subject.toList).length ≤ WholeNumber.digitLimit)
      (hother : subject.toList.all Text.isDecimal = false) :
      Derails payload (.notAWholeNumber (.plain subject) .malformed)
  | typeless {subject : String} (hshaped : Shaped payload subject)
      (hdated : AllDated payload)
      (hfew : (Text.decimals subject.toList).length ≤ WholeNumber.digitLimit)
      (hdecimal : subject.toList.all Text.isDecimal = true)
      (htype : payload.member? "typ" = none) :
      Derails payload .missingTokenType

theorem require_eq_broken {α : Type} {found : Option α} {reason : Rejection} {cause : Breakdown} :
    require found reason = .error (.broken cause) ↔ False := by
  cases found with
  | none => simp [require]
  | some value => simp [require]

theorem ofPayload_eq_broken_iff {payload : Json} {cause : Breakdown} :
    ofPayload payload = .error (.broken cause) ↔
      ∃ subject, Shaped payload subject ∧
        (cause = .systemCalendarExceeded ∧ Beyond payload "iat" ∨ Dated payload "iat" ∧
        (cause = .systemCalendarExceeded ∧ Beyond payload "nbf" ∨ Dated payload "nbf" ∧
        (cause = .systemCalendarExceeded ∧ Beyond payload "exp" ∨ Dated payload "exp" ∧
        (numberOf subject = .error (.broken cause) ∨ (∃ userId, numberOf subject = .ok userId) ∧
        payload.member? "typ" = none ∧ cause = .missingTokenType)))) := by
  unfold ofPayload
  simp only [bind_eq_error, require_eq_broken, require_eq_ok, false_or, momentClaim_eq_broken,
    subject?_eq_some, textClaim?_eq_some]
  constructor
  · rintro ⟨subject, hsubject, email, hemail, tokenId, htokenId, hclaims⟩
    refine ⟨subject, ⟨hsubject, ⟨email, hemail⟩, ⟨tokenId, htokenId⟩⟩, ?_⟩
    rcases hclaims with hissued | ⟨issuedAt, hissued, hclaims⟩
    · exact .inl hissued
    refine .inr ⟨dated_of_momentClaim hissued, ?_⟩
    rcases hclaims with hbefore | ⟨notBefore, hbefore, hclaims⟩
    · exact .inl hbefore
    refine .inr ⟨dated_of_momentClaim hbefore, ?_⟩
    rcases hclaims with hexpires | ⟨expiresAt, hexpires, hclaims⟩
    · exact .inl hexpires
    refine .inr ⟨dated_of_momentClaim hexpires, ?_⟩
    rcases hclaims with hnumber | ⟨userId, hnumber, htype⟩
    · exact .inl hnumber
    refine .inr ⟨⟨userId, hnumber⟩, ?_⟩
    split at htype
    next => cases htype
    next hmember =>
      injection htype with htype
      injection htype with htype
      exact ⟨hmember, htype.symm⟩
  · rintro ⟨subject, ⟨hsubject, ⟨email, hemail⟩, ⟨tokenId, htokenId⟩⟩, hclaims⟩
    refine ⟨subject, hsubject, email, hemail, tokenId, htokenId, ?_⟩
    rcases hclaims with hissued | ⟨hissued, hclaims⟩
    · exact .inl hissued
    obtain ⟨issuedAt, hissued⟩ := hissued.momentClaim
    refine .inr ⟨issuedAt, hissued, ?_⟩
    rcases hclaims with hbefore | ⟨hbefore, hclaims⟩
    · exact .inl hbefore
    obtain ⟨notBefore, hbefore⟩ := hbefore.momentClaim
    refine .inr ⟨notBefore, hbefore, ?_⟩
    rcases hclaims with hexpires | ⟨hexpires, hclaims⟩
    · exact .inl hexpires
    obtain ⟨expiresAt, hexpires⟩ := hexpires.momentClaim
    refine .inr ⟨expiresAt, hexpires, ?_⟩
    rcases hclaims with hnumber | ⟨⟨userId, hnumber⟩, htype, rfl⟩
    · exact .inl hnumber
    refine .inr ⟨userId, hnumber, ?_⟩
    rw [htype]

theorem ofPayload_eq_broken {payload : Json} {cause : Breakdown} :
    ofPayload payload = .error (.broken cause) ↔ Derails payload cause := by
  rw [ofPayload_eq_broken_iff]
  constructor
  · rintro ⟨subject, hshaped, ⟨rfl, hissued⟩ | ⟨hissued, ⟨rfl, hbefore⟩ | ⟨hbefore,
      ⟨rfl, hexpires⟩ | ⟨hexpires, hnumber | ⟨hnumber, htype, rfl⟩⟩⟩⟩⟩
    · exact .issued hshaped hissued
    · exact .notBefore hshaped hissued hbefore
    · exact .expires hshaped hissued hbefore hexpires
    · rcases (numberOf_eq_broken hshaped.subject.2).mp hnumber with
        ⟨hmany, rfl⟩ | ⟨hfew, hother, rfl⟩
      · exact .manyDigits hshaped ⟨hissued, hbefore, hexpires⟩ hmany
      · exact .otherDigits hshaped ⟨hissued, hbefore, hexpires⟩ hfew hother
    · obtain ⟨hfew, hdecimal⟩ := (exists_numberOf_iff hshaped.subject.2).mp hnumber
      exact .typeless hshaped ⟨hissued, hbefore, hexpires⟩ hfew hdecimal htype
  · intro hderails
    cases hderails with
    | issued hshaped hissued => exact ⟨_, hshaped, .inl ⟨rfl, hissued⟩⟩
    | notBefore hshaped hissued hbefore =>
        exact ⟨_, hshaped, .inr ⟨hissued, .inl ⟨rfl, hbefore⟩⟩⟩
    | expires hshaped hissued hbefore hexpires =>
        exact ⟨_, hshaped, .inr ⟨hissued, .inr ⟨hbefore, .inl ⟨rfl, hexpires⟩⟩⟩⟩
    | manyDigits hshaped hdated hmany =>
        have hnumber := (numberOf_eq_broken hshaped.subject.2).mpr (.inl ⟨hmany, rfl⟩)
        obtain ⟨hissued, hbefore, hexpires⟩ := hdated
        exact ⟨_, hshaped, .inr ⟨hissued, .inr ⟨hbefore, .inr ⟨hexpires, .inl hnumber⟩⟩⟩⟩
    | otherDigits hshaped hdated hfew hother =>
        have hnumber := (numberOf_eq_broken hshaped.subject.2).mpr (.inr ⟨hfew, hother, rfl⟩)
        obtain ⟨hissued, hbefore, hexpires⟩ := hdated
        exact ⟨_, hshaped, .inr ⟨hissued, .inr ⟨hbefore, .inr ⟨hexpires, .inl hnumber⟩⟩⟩⟩
    | typeless hshaped hdated hfew hdecimal htype =>
        have hnumber := (exists_numberOf_iff hshaped.subject.2).mpr ⟨hfew, hdecimal⟩
        obtain ⟨hissued, hbefore, hexpires⟩ := hdated
        exact ⟨_, hshaped,
          .inr ⟨hissued, .inr ⟨hbefore, .inr ⟨hexpires, .inr ⟨hnumber, htype, rfl⟩⟩⟩⟩⟩

end Claims

/-! ## Signed tokens -/

/-- The token names the one algorithm, the secret signed it, and its body spells the
text. -/
structure SignedText (secret : String) (segments : Segments) (text : List Char) : Prop where
  header : ∃ header, Spells segments.head header ∧ header.member? "alg" = some (.text "HS256")
  signature : Base64.decode (Text.Utf8.encode segments.tail) =
    .ok (Hmac.sign (Text.Utf8.encode secret.toList) (Text.Utf8.encode segments.signed))
  body : ∃ bytes, Base64.decode (Text.Utf8.encode segments.body) = .ok bytes ∧
    Text.Utf8.decode bytes = .ok text

theorem verifiedPayload_signedText
    {issuer : Issuer} (hplain : isPlainSecret issuer.secret = true) {segments : Segments}
    {text : List Char} (hsigned : SignedText issuer.secret segments text) :
    ∃ bytes, Text.Utf8.decode bytes = .ok text ∧
      issuer.verifiedPayload (String.ofList segments.text) = readPayload bytes := by
  obtain ⟨header, ⟨headBytes, headText, hhead, hheadText, hread, hobject⟩, halgorithm⟩ :=
    hsigned.header
  obtain ⟨bytes, hbody, htext⟩ := hsigned.body
  let opened : Opened :=
    { header
      signed := Text.Utf8.encode segments.signed
      payload := bytes
      signature := Hmac.sign (Text.Utf8.encode issuer.secret.toList)
        (Text.Utf8.encode segments.signed) }
  have hopens : Opens segments opened :=
    { header := ⟨headBytes, hhead, objectOf?_eq_some.mpr ⟨headText, hheadText, hread, hobject⟩⟩
      signed := rfl
      payload := hbody
      signature := hsigned.signature }
  have hopen : openToken (String.ofList segments.text) = .ok opened :=
    openToken_eq_ok.mpr ⟨segments, String.toList_ofList, hopens⟩
  have hsame : ((opened.header.member? "alg").getD .null).text? = some algorithm := by
    rw [show opened.header = header from rfl, halgorithm]
    rfl
  refine ⟨bytes, htext, ?_⟩
  rw [Issuer.verifiedPayload, hopen]
  simp only [Except.mapError, ok_bind, hsame, ne_eq, not_true_eq_false, if_false,
    signedBy_of_plain hplain, opened, decide_true, if_true]

theorem readPayload_eq_broken
    {bytes : List UInt8} {text : List Char} (htext : Text.Utf8.decode bytes = .ok text)
    {cause : Breakdown} :
    readPayload bytes = .error (.broken cause) ↔
      ∃ container, Json.read text = .error (.tooDeep container) ∧
        cause = .nestedTooDeep container := by
  rw [readPayload, htext]
  dsimp only
  cases Json.read text with
  | ok value =>
      dsimp only
      split
      next => simp
      next => simp [unreadable]
  | error fault =>
      cases fault with
      | tooDeep container => simp [eq_comm]
      | _ => simp [unreadable]

/-- The text of a payload breaks the examination as a token of the kind down. -/
inductive Derails (now : Int) (kind : Kind) (text : List Char) : Breakdown → Prop where
  | tooDeep {container : Json.Container} (hread : Json.read text = .error (.tooDeep container)) :
      Derails now kind text (.nestedTooDeep container)
  | times {payload : Json} {cause : Breakdown} (hread : Json.read text = .ok payload)
      (hobject : payload.isObject = true) (hpresent : missingClaim? payload = none)
      (htimes : TimesDerail now payload cause) :
      Derails now kind text cause
  | claims {payload : Json} {cause : Breakdown} (hread : Json.read text = .ok payload)
      (hobject : payload.isObject = true) (hregistered : checkRegistered now payload = .ok ())
      (htype : payload.member? "typ" = some (.text kind.name))
      (hclaims : Claims.Derails payload cause) :
      Derails now kind text cause

theorem validate_eq_broken
    {issuer : Issuer} {token : String} {moment : Moment} {kind : Kind} {cause : Breakdown} :
    issuer.validate moment kind token = .error (.broken cause) ↔
      issuer.verifiedPayload token = .error (.broken cause) ∨
        ∃ payload, issuer.verifiedPayload token = .ok payload ∧
          (checkRegistered moment.second payload = .error (.broken cause) ∨
            checkRegistered moment.second payload = .ok () ∧
              payload.member? "typ" = some (.text kind.name) ∧
              Claims.ofPayload payload = .error (.broken cause)) := by
  unfold Issuer.validate
  simp only [bind_eq_error, unless_throw_eq_error, ne_eq, not_not, text?_bind_eq_some]
  constructor
  · rintro (hpayload | ⟨payload, hpayload, hregistered | ⟨_, hregistered,
      ⟨-, hkind⟩ | ⟨htype, hclaims⟩⟩⟩)
    · exact .inl hpayload
    · exact .inr ⟨payload, hpayload, .inl hregistered⟩
    · cases hkind
    · exact .inr ⟨payload, hpayload, .inr ⟨hregistered, htype, hclaims⟩⟩
  · rintro (hpayload | ⟨payload, hpayload, hregistered | ⟨hregistered, htype, hclaims⟩⟩)
    · exact .inl hpayload
    · exact .inr ⟨payload, hpayload, .inl hregistered⟩
    · exact .inr ⟨payload, hpayload, .inr ⟨(), hregistered, .inr ⟨htype, hclaims⟩⟩⟩

theorem readPayload_eq_ok_iff
    {bytes : List UInt8} {text : List Char} (htext : Text.Utf8.decode bytes = .ok text)
    {payload : Json} :
    readPayload bytes = .ok payload ↔ Json.read text = .ok payload ∧ payload.isObject = true := by
  constructor
  · intro hread
    obtain ⟨cs, hcs, hjson, hobject⟩ := readPayload_eq_ok hread
    rw [htext] at hcs
    injection hcs with hcs
    rw [hcs]
    exact ⟨hjson, hobject⟩
  · rintro ⟨hjson, hobject⟩
    simp only [readPayload, htext, hjson, hobject, if_true]

/-- A signed token is validated or rejected, unless the text of its payload derails the
examination, and so are the claims of any payload. -/
theorem breaks_down_iff_derails
    {issuer : Issuer} (hplain : isPlainSecret issuer.secret = true) {segments : Segments}
    {text : List Char} (hsigned : SignedText issuer.secret segments text) :
    (∀ moment kind cause,
      issuer.validate moment kind (String.ofList segments.text) = .error (.broken cause) ↔
        Derails moment.second kind text cause) ∧
    ∀ payload cause,
      Claims.ofPayload payload = .error (.broken cause) ↔ Claims.Derails payload cause := by
  refine ⟨fun moment kind cause => ?_, fun _ _ => Claims.ofPayload_eq_broken⟩
  obtain ⟨bytes, htext, hverified⟩ := verifiedPayload_signedText hplain hsigned
  rw [validate_eq_broken, hverified, readPayload_eq_broken htext]
  simp only [readPayload_eq_ok_iff htext, checkRegistered_eq_broken, Claims.ofPayload_eq_broken]
  constructor
  · rintro (⟨container, hread, rfl⟩ | ⟨payload, ⟨hread, hobject⟩,
      ⟨hpresent, htimes⟩ | ⟨hregistered, htype, hclaims⟩⟩)
    · exact .tooDeep hread
    · exact .times hread hobject hpresent htimes
    · exact .claims hread hobject hregistered htype hclaims
  · intro hderails
    cases hderails with
    | tooDeep hread => exact .inl ⟨_, hread, rfl⟩
    | times hread hobject hpresent htimes =>
        exact .inr ⟨_, ⟨hread, hobject⟩, .inl ⟨hpresent, htimes⟩⟩
    | claims hread hobject hregistered htype hclaims =>
        exact .inr ⟨_, ⟨hread, hobject⟩, .inr ⟨hregistered, htype, hclaims⟩⟩

/-- The subject is a superscript two, which is a digit but spells no number. -/
theorem breaks_down_iff_derails_superscript :
    let issuer : Issuer := ⟨"keep it", .ofSeconds 900, .ofSeconds 604800⟩
    let moment : Moment := { micros := 1700000000000000 }
    let payload : Json := .record
      [("sub", .text "²"), ("email", .text "two@example.org"), ("jti", .text "1f"),
        ("typ", .text "access"), ("iat", .int 1700000000), ("nbf", .int 1700000000),
        ("exp", .int 1700000900)]
    ∃ token, sign "keep it" payload = .ok token ∧
      issuer.validate moment .access token =
        .error (.broken (.notAWholeNumber (.plain "²") .malformed)) ∧
      Claims.ofPayload payload =
        .error (.broken (.notAWholeNumber (.plain "²") .malformed)) := by
  intro issuer moment payload
  have hplain : isPlainSecret "keep it" = true := by decide +kernel
  let segments := signedSegments (Text.Utf8.encode "keep it".toList) payload
  have hsign : sign "keep it" payload = .ok (String.ofList segments.text) :=
    sign_eq_ok.mpr ⟨_, signingKey_of_plain hplain, rfl⟩
  have hfew (seconds : Nat) (hseconds : seconds < 10 ^ 10) :
      seconds < 10 ^ WholeNumber.digitLimit :=
    Nat.lt_of_lt_of_le hseconds (Nat.pow_le_pow_right (by decide) (by decide))
  have hlegible : Json.Legible Json.nestingLimit payload := by
    change Json.Legible (969 + 1) payload
    refine .record (by decide) ?_
    intro member hmember
    simp only [List.mem_cons, List.not_mem_nil, or_false] at hmember
    rcases hmember with rfl | rfl | rfl | rfl | rfl | rfl | rfl
    · exact .text _
    · exact .text _
    · exact .text _
    · exact .text _
    · exact .int (hfew _ (by decide))
    · exact .int (hfew _ (by decide))
    · exact .int (hfew _ (by decide))
  have hread : Json.read payload.write = .ok payload := Json.read_write hlegible
  have hsigned : SignedText "keep it" segments payload.write :=
    { header := ⟨header, ⟨_, header.write, decode_segment header, Text.Utf8.decode_encode _,
        Json.read_write legible_header, rfl⟩, rfl⟩
      signature := Base64.decode_encode _
      body := ⟨_, decode_segment payload, Text.Utf8.decode_encode _⟩ }
  have hshaped : Claims.Shaped payload "²" :=
    ⟨⟨rfl, by decide +kernel⟩, ⟨_, rfl, by decide +kernel⟩, ⟨_, rfl, by decide +kernel⟩⟩
  have hdated : Claims.AllDated payload := ⟨⟨_, _, rfl, rfl⟩, ⟨_, _, rfl, rfl⟩, ⟨_, _, rfl, rfl⟩⟩
  have hclaims : Claims.Derails payload (.notAWholeNumber (.plain "²") .malformed) :=
    .otherDigits hshaped hdated (by decide +kernel) (by decide +kernel)
  obtain ⟨hvalidate, hofPayload⟩ := @breaks_down_iff_derails issuer hplain segments _ hsigned
  refine ⟨_, hsign, (hvalidate moment .access _).mpr ?_, (hofPayload payload _).mpr hclaims⟩
  exact .claims hread rfl rfl rfl hclaims

end Token

end AccountSessions
