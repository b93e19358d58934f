import AccountSessions.Encoding.Base64
import AccountSessions.Json.Literal
import AccountSessions.Json.Reader
import AccountSessions.Refusal
import AccountSessions.Time.MomentText

/-!
# Failures

An operation fails with a refusal, which its caller is told about, or breaks down for a
cause that no caller is expected to handle: the database, a value beyond a limit, a key
that cannot be used.
-/

namespace AccountSessions

inductive Breakdown where
  | databaseFailed
  | collaboratorFailed (message : String)
  | missingAccount
  | columnOverflow
  | dateOutOfRange
  | systemCalendarExceeded
  | badDuration (fault : Duration.Fault)
  | badCivilTime (fault : CivilTime.Fault)
  | badOffset (offset : Duration)
  | badMomentText (fault : MomentText.Fault)
  | invalidRounds
  | passwordTooLong
  | emptySecret
  | unidentifiedUser
  | publicKeyForSigning
  | publicKeyForVerifying
  | keyNotText
  | wrongKeyType (received : Json)
  | keyMaterialNotText (kind : String)
  | badKeyMaterial (fault : Base64.Fault)
  | unencodableKey (codes : List Nat)
  | notACollection (kind : String)
  | notAWholeNumber (text : JsonString) (fault : WholeNumber.Fault)
  | notNumeric (kind : String)
  | infiniteNumber
  | missingTokenType
  | nestedTooDeep (container : Json.Container)
  | unreadableSetting (field source : String)
  | unshowableClaims
  | unknownStatus (status : Int)
  | unsendableHeader (value : String)
  | unsendableNumber
  deriving Repr

namespace Breakdown

/-- The first row of code points that cannot be encoded: its first and last place and its
first code. -/
def firstRow (fails : Nat → Bool) (codes : List Nat) : Nat × Nat × Nat :=
  let start := (codes.takeWhile fun code => !fails code).length
  let row := (codes.drop start).takeWhile fails
  (start, start + row.length - 1, row.headD 0)

def unencodableMessage (encoding reason : String) (fails : Nat → Bool) (codes : List Nat) :
    String :=
  let (first, last, code) := firstRow fails codes
  let place :=
    if first = last then
      "character '" ++ String.ofList (Text.Quoted.numericEscape code) ++ "' in position " ++
        toString first
    else "characters in position " ++ toString first ++ "-" ++ toString last
  "'" ++ encoding ++ "' codec can't encode " ++ place ++ ": " ++ reason

/-- The quoted text in a report, of which at most 200 characters are shown. -/
def shownText (text : JsonString) : String :=
  String.ofList ((Text.Quoted.quoted text.codes).take 200)

def publicKeyMessage : String :=
  "The specified key is an asymmetric key or x509 certificate and should not be used as an HMAC secret."

def message : Breakdown → String
  | databaseFailed => ""
  | collaboratorFailed message => message
  | missingAccount => "replace() should be called on dataclass instances"
  | columnOverflow => "Python int too large to convert to SQLite INTEGER"
  | dateOutOfRange => "date value out of range"
  | systemCalendarExceeded => ""
  | badDuration fault => fault.message
  | badCivilTime fault => fault.message
  | badOffset offset => CivilTime.offsetMessage offset
  | badMomentText fault => fault.message
  | invalidRounds => "Invalid rounds"
  | passwordTooLong =>
    "password cannot be longer than 72 bytes, truncate manually if necessary (e.g. my_password[:72])"
  | emptySecret => "TokenIssuer requires a non-empty signing secret."
  | unidentifiedUser => "Cannot issue a token for a user without an id."
  | publicKeyForSigning | publicKeyForVerifying => publicKeyMessage
  | keyNotText => "Expecting a string- or bytes-formatted key."
  | wrongKeyType received => "Incorrect key type. Expected: 'oct', Received: " ++ received.display
  | keyMaterialNotText kind => "'" ++ kind ++ "' object has no attribute 'encode'"
  | badKeyMaterial fault => fault.message
  | unencodableKey codes =>
    unencodableMessage "utf-8" "surrogates not allowed" Text.Quoted.isSurrogate codes
  | notACollection kind => "'" ++ kind ++ "' object is not iterable"
  | notAWholeNumber text .malformed =>
    "invalid literal for int() with base 10: " ++ shownText text
  | notAWholeNumber _ (.tooManyDigits count) => WholeNumber.tooManyDigitsMessage count
  | notNumeric kind =>
    "int() argument must be a string, a bytes-like object or a real number, not '" ++ kind ++ "'"
  | infiniteNumber => "cannot convert float infinity to integer"
  | missingTokenType => "'typ'"
  | nestedTooDeep container => (Json.ReadError.tooDeep container).message
  | unreadableSetting field source =>
    "error parsing value for field \"" ++ field ++ "\" from source \"" ++ source ++ "\""
  | unshowableClaims => ""
  | unknownStatus status => toString status ++ " is not a valid HTTPStatus"
  | unsendableHeader value =>
    unencodableMessage "latin-1" "ordinal not in range(256)" (0xFF < ·)
      (value.toList.map Char.toNat)
  | unsendableNumber => "Out of range float values are not JSON compliant"

end Breakdown

inductive Failure where
  | refused (refusal : Refusal)
  | broken (cause : Breakdown)
  deriving Repr

namespace Failure

def usual (kind : Refusal.Kind) : Failure :=
  .refused (.usual kind)

end Failure

end AccountSessions
