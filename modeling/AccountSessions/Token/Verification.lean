import AccountSessions.Text.Fields
import AccountSessions.Token.Claims
import AccountSessions.Token.Issuer

/-!
# Verifying tokens

A token is taken apart and its header read; only the one algorithm is accepted.  Then
the signature is checked against the raw text of the first two segments, the payload is
read, its required claims and times are checked, and at last its kind and shape.
-/

namespace AccountSessions.Token

structure Opened where
  header : Json
  /-- The bytes that are signed: both first segments and the point between them. -/
  signed : List UInt8
  payload : List UInt8
  signature : List UInt8

def objectOf? (bytes : List UInt8) : Option Json := do
  let cs ← (Text.Utf8.decode bytes).toOption
  let value ← (Json.read cs).toOption
  guard value.isObject
  return value

def openToken (token : String) : Except Rejection Opened :=
  match Text.fields 0x2E (Text.Utf8.encode token.toList) with
  | [head, body, tail] =>
    let parts := do
      let header ← (Base64.decode head).toOption.bind objectOf?
      let payload ← (Base64.decode body).toOption
      let signature ← (Base64.decode tail).toOption
      return { header, signed := head ++ 0x2E :: body, payload, signature }
    match parts with
    | some opened => .ok opened
    | none => .error .malformedHeader
  | _ => .error .malformedToken

def signedByOne (signed signature : List UInt8) : List Json → Except Breakdown Bool
  | [] => .ok false
  | candidate :: more =>
    match keyOf candidate with
    | .error cause => .error cause
    | .ok key =>
      if Hmac.sign key signed = signature then .ok true else signedByOne signed signature more

def signedBy (secret : String) (signed signature : List UInt8) : Except Breakdown Bool :=
  match candidates secret with
  | .error cause => .error cause
  | .ok keys => signedByOne signed signature keys

def unreadable (reason : String) : Fault :=
  .rejected (.unverified ("Invalid payload string: " ++ reason))

def readPayload (bytes : List UInt8) : Except Fault Json :=
  match Text.Utf8.decode bytes with
  | .error fault => .error (unreadable fault.message)
  | .ok cs =>
    match Json.read cs with
    | .error (.tooDeep container) => .error (.broken (.nestedTooDeep container))
    | .error fault => .error (unreadable fault.message)
    | .ok value => if value.isObject then .ok value else .error (unreadable "must be a json object")

/-! ### The registered claims -/

/-- The claims that must be there, in the order in which they are missed. -/
def requiredClaims : List String :=
  ["iat", "exp", "nbf", "sub", "jti"]

def missingClaim? (payload : Json) : Option String :=
  requiredClaims.find? fun name => (payload.member? name).isNone

def notWhole (label : String) : Fault :=
  .rejected (.unverified (label ++ " must be an integer."))

/-- A claim as a whole number: a number without its fraction, or a text that spells
one. -/
def wholeClaim (label : String) : Json → Except Fault Int
  | .int value => .ok value
  | .bool value => .ok (if value then 1 else 0)
  | .real .notANumber => .error (notWhole label)
  | .real value =>
    match value.truncate? with
    | some whole => .ok whole
    | none => .error (.broken .infiniteNumber)
  | .string (.plain text) =>
    match WholeNumber.read text.toList with
    | .ok value => .ok value
    | .error _ => .error (notWhole label)
  | .string (.broken _) => .error (notWhole label)
  | value => .error (.broken (.notNumeric value.kindName))

/-- The time claims, in whole seconds: the time of issue is a number, and now is not
before the one and not after the other bound. -/
def checkTimes (now : Int) (payload : Json) : Except Fault Unit := do
  let claim := fun (name : String) => (payload.member? name).getD .null
  let _ ← wholeClaim "Issued At claim (iat)" (claim "iat")
  let notBefore ← wholeClaim "Not Before claim (nbf)" (claim "nbf")
  if now < notBefore then
    throw (.rejected (.unverified "The token is not yet valid (nbf)"))
  let expires ← wholeClaim "Expiration Time claim (exp)" (claim "exp")
  if expires < now then
    throw (.rejected .expired)

def audienceFault : Json → String
  | .string _ => "Invalid audience"
  | .list items =>
    if items.all fun | .string _ => true | _ => false then "Invalid audience"
    else "Invalid claim format in token"
  | _ => "Invalid claim format in token"

def isString : Option Json → Bool
  | some (.string _) => true
  | _ => false

/-- The claims about persons and tokens: no audience, a subject and a token id that are
strings, and no digest of another token. -/
def otherFault? (payload : Json) : Option String :=
  match payload.member? "aud" with
  | some audience => some (audienceFault audience)
  | none =>
    if !isString (payload.member? "sub") then some "Subject must be a string."
    else if !isString (payload.member? "jti") then some "JWT ID must be a string."
    else if (payload.member? "at_hash").isSome then
      some "No access_token provided to compare against at_hash claim."
    else none

def checkRegistered (now : Int) (payload : Json) : Except Fault Unit := do
  match missingClaim? payload with
  | some name =>
    throw (.rejected (.unverified ("missing required key \"" ++ name ++ "\" among claims")))
  | none => pure ()
  checkTimes now payload
  match otherFault? payload with
  | some reason => throw (.rejected (.unverified reason))
  | none => pure ()

/-! ### The whole check -/

namespace Issuer

def verifiedPayload (issuer : Issuer) (token : String) : Except Fault Json := do
  let opened ← (openToken token).mapError .rejected
  let found := (opened.header.member? "alg").getD .null
  if found.text? ≠ some algorithm then
    throw (.rejected (.wrongAlgorithm found))
  if ← (signedBy issuer.secret opened.signed opened.signature).mapError .broken then
    readPayload opened.payload
  else
    throw (.rejected (.unverified "Signature verification failed."))

def validate (issuer : Issuer) (now : Moment) (kind : Kind) (token : String) :
    Except Fault Claims := do
  let payload ← issuer.verifiedPayload token
  checkRegistered now.second payload
  if (payload.member? "typ").bind Json.text? ≠ some kind.name then
    throw (.rejected (.wrongKind kind))
  Claims.ofPayload payload

/-- The claims of any value that is handed in as a token; only a text can be one. -/
def validateValue (issuer : Issuer) (now : Moment) (kind : Kind) (token : Json) :
    Except Fault Claims :=
  match token.text? with
  | some token => issuer.validate now kind token
  | none => .error (.rejected .malformedToken)

end Issuer

def segmentTexts? (token : String) : Option (String × String) :=
  match Text.fields '.' token.toList with
  | [head, body, _] => do
    let text := fun (segment : List Char) => do
      let bytes ← (Base64.decode (Text.Utf8.encode segment)).toOption
      let cs ← (Text.Utf8.decode bytes).toOption
      return String.ofList cs
    return (← text head, ← text body)
  | _ => none

end AccountSessions.Token
