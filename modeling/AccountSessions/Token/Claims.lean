import AccountSessions.Failure
import AccountSessions.Token.Kind

/-!
# Claims

What a token says about its holder.  The claims are taken out of the payload with every
shape checked: the subject is a text of digits, the address and the token id are texts
that are not empty, and the three times are numbers of seconds within the calendar.
-/

namespace AccountSessions.Token

structure Claims where
  userId : Int
  email : JsonString
  tokenId : JsonString
  tokenType : Json
  issuedAt : Moment
  notBefore : Moment
  expiresAt : Moment
  deriving Repr

inductive Rejection where
  | malformedToken
  | malformedHeader
  | wrongAlgorithm (found : Json)
  | unverified (reason : String)
  | expired
  | wrongKind (expected : Kind)
  | badSubject
  | missingEmail
  | missingTokenId
  | badTimes
  | noLiveSession
  deriving Repr

def Rejection.text : Rejection → String
  | malformedToken => "malformed token"
  | malformedHeader => "malformed header"
  | wrongAlgorithm found => "unexpected signing algorithm: " ++ found.literal
  | unverified reason => "verification failed: " ++ reason
  | expired => "token expired"
  | wrongKind expected => "expected " ++ expected.name ++ " token"
  | badSubject => "subject is not a user id"
  | missingEmail => "missing email claim"
  | missingTokenId => "missing token id"
  | badTimes => "malformed timestamps"
  | noLiveSession => "refresh token has no live session"

inductive Fault where
  | rejected (reason : Rejection)
  | broken (cause : Breakdown)
  deriving Repr

def Fault.toFailure : Fault → Failure
  | rejected reason => .refused (.ofToken reason.text)
  | broken cause => .broken cause

namespace Claims

/-! ### Times -/

/-- The seconds that the calendar of the system reaches. -/
def latestSystemSecond : Int := 67768036191676799

def earliestSystemSecond : Int := -67768040609740800

/-- The moment of a number of seconds and microseconds.  Beyond 64 bits there is no such
number, and beyond the calendar of the system the examination breaks down. -/
def momentOfSeconds (seconds : Int) (micros : Int) : Except Fault Moment :=
  if !WholeNumber.fitsWord seconds then .error (.rejected .badTimes)
  else if latestSystemSecond < seconds ∨ seconds < earliestSystemSecond then
    .error (.broken .systemCalendarExceeded)
  else
    match Moment.ofMicros? (seconds * Duration.microsPerSecond + micros) with
    | some moment => .ok moment
    | none => .error (.rejected .badTimes)

/-- The microseconds of the fraction of `mantissa * 2 ^ exponent`: the fraction times a
million, rounded as a binary64 product and then to the nearest whole number. -/
def fractionMicros (mantissa : Nat) (exponent : Int) : Nat :=
  let (n, d) := Binary64.ratio mantissa exponent
  match Binary64.ofRatio false (n % d * Duration.microsPerSecond) d with
  | .finite _ m e =>
    let (n, d) := Binary64.ratio m e
    Binary64.nearest n d
  | _ => 0

/-- The moment of a claim: a whole number of seconds, or a decimal one that is rounded
to microseconds. -/
def momentOf : Json → Except Fault Moment
  | .int seconds => momentOfSeconds seconds 0
  | .real (.finite negative mantissa exponent) =>
    let whole : Int := Binary64.wholePart mantissa exponent
    let micros : Int := fractionMicros mantissa exponent
    if negative then momentOfSeconds (-whole) (-micros) else momentOfSeconds whole micros
  | _ => .error (.rejected .badTimes)

def momentClaim (payload : Json) (name : String) : Except Fault Moment :=
  match payload.member? name with
  | some value => momentOf value
  | none => .error (.rejected .badTimes)

/-! ### Texts -/

def isDigits (s : String) : Bool :=
  !s.isEmpty && s.toList.all Text.isDigit

def subject? (payload : Json) : Option String :=
  match payload.member? "sub" with
  | some (.string (.plain s)) => if isDigits s then some s else none
  | _ => none

def textClaim? (payload : Json) (name : String) : Option JsonString :=
  match payload.member? name with
  | some (.string s) => if s.isEmpty then none else some s
  | _ => none

/-- The number that a text spells, which may use digits that are no decimal ones. -/
def numberOf (s : String) : Except Fault Int :=
  match WholeNumber.read s.toList with
  | .ok value => .ok value
  | .error fault => .error (.broken (.notAWholeNumber (.plain s) fault))

def require (value : Option α) (reason : Rejection) : Except Fault α :=
  match value with
  | some value => .ok value
  | none => .error (.rejected reason)

def ofPayload (payload : Json) : Except Fault Claims := do
  let subject ← require (subject? payload) .badSubject
  let email ← require (textClaim? payload "email") .missingEmail
  let tokenId ← require (textClaim? payload "jti") .missingTokenId
  let issuedAt ← momentClaim payload "iat"
  let notBefore ← momentClaim payload "nbf"
  let expiresAt ← momentClaim payload "exp"
  let userId ← numberOf subject
  match payload.member? "typ" with
  | some tokenType =>
    return { userId, email, tokenId, tokenType, issuedAt, notBefore, expiresAt }
  | none => .error (.broken .missingTokenType)

end Claims

end AccountSessions.Token
