import AccountSessions.Digest.Hmac
import AccountSessions.Json.Writer
import AccountSessions.Token.Kind
import AccountSessions.Token.SigningKey

/-!
# Issuing tokens

A token is a header, a payload and a signature, each in base64 and joined by points.
The payload names the holder, the token, its kind and, in whole seconds, the time from
which and the time until which it is valid.
-/

namespace AccountSessions.Token

structure Holder where
  id : Option Int
  email : Option String
  deriving DecidableEq, Repr

structure Issuer where
  secret : String
  accessTtl : Duration
  refreshTtl : Duration
  deriving DecidableEq, Repr

def algorithm : String := "HS256"

def header : Json :=
  .record [("alg", .text algorithm), ("typ", .text "JWT")]

/-- The whole seconds of a moment, as the quotient is rounded. -/
def epochSeconds (moment : Moment) : Int :=
  Binary64.truncatedQuotient moment.micros Duration.microsPerSecond

def payload (userId : Int) (email : Option String) (tokenId : String) (kind : Kind)
    (issued expires : Int) : Json :=
  .record
    [("sub", .text (toString userId)), ("email", .ofOption .text email), ("jti", .text tokenId),
      ("typ", .text kind.name), ("iat", .int issued), ("nbf", .int issued), ("exp", .int expires)]

def segment (value : Json) : List Char :=
  Base64.encode (Text.Utf8.encode value.write)

def sign (secret : String) (payload : Json) : Except Breakdown String :=
  match signingKey secret with
  | .error cause => .error cause
  | .ok key =>
    let signed := segment header ++ '.' :: segment payload
    let signature := Hmac.sign key (Text.Utf8.encode signed)
    .ok (String.ofList (signed ++ '.' :: Base64.encode signature))

namespace Issuer

def make (secret : String) (accessTtl refreshTtl : Duration) : Except Breakdown Issuer :=
  if secret.isEmpty then .error .emptySecret else .ok ⟨secret, accessTtl, refreshTtl⟩

def ttl (issuer : Issuer) : Kind → Duration
  | .access => issuer.accessTtl
  | .refresh => issuer.refreshTtl

def issue (issuer : Issuer) (kind : Kind) (now : Moment) (tokenId : String) (userId : Int)
    (email : Option String) : Except Breakdown String :=
  match now.add? (issuer.ttl kind) with
  | none => .error .dateOutOfRange
  | some expires =>
    sign issuer.secret
      (payload userId email tokenId kind (epochSeconds now) (epochSeconds expires))

def display (issuer : Issuer) : String :=
  "TokenIssuer(access_ttl=" ++ issuer.accessTtl.display ++ ", refresh_ttl=" ++
    issuer.refreshTtl.display ++ ")"

end Issuer

/-- The id of the token with a number: the number in hexadecimal digits behind a fixed
beginning. -/
def numberedId (number : Nat) : String :=
  "00000000-0000-4000-8000-" ++ String.ofList (Text.Quoted.hex 12 number)

end AccountSessions.Token
