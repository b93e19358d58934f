import AccountSessions.Password.Policy
import AccountSessions.Service.Store
import AccountSessions.Token.Verification

/-!
# The service

The issuer of tokens, the hasher, the policy for passwords and the publisher of events.
Events are published when an operation has succeeded, and a publisher that fails does
not undo it.
-/

namespace AccountSessions

inductive Publisher where
  | absent
  | recording
  | logging
  | failing
  deriving DecidableEq, Repr

structure Service where
  issuer : Token.Issuer
  hasher : Password.Hasher
  policy : Password.Policy
  publisher : Publisher
  deriving DecidableEq, Repr

structure Session where
  account : Account
  accessToken : String
  refreshToken : String
  /-- The life of the access token in whole seconds. -/
  expiresIn : Int
  deriving DecidableEq, Repr

def Session.tokenType : String := "Bearer"

namespace Service

open Operation

def build (secret : String) (accessTtl refreshTtl : Duration) (rounds : Int)
    (policy : Password.Policy) (publisher : Publisher) : Operation Service := do
  let issuer ← ofBreakdown (Token.Issuer.make secret accessTtl refreshTtl)
  let salt ← drawSalt
  let hasher ← ofBreakdown (Password.Hasher.make rounds salt)
  return { issuer, hasher, policy, publisher }

def eventText (event : Event) : String :=
  "event=" ++ event.name.text ++ " user_id=" ++ toString event.userId ++ " metadata=" ++
    event.note.toJson.literal

def publish (service : Service) (name : EventName) (userId : Int) (note : EventNote) :
    Operation Unit := do
  let event : Event := { name, userId, occurredAt := ← now, note }
  let keep : Operation Unit :=
    modify fun state => { state with published := state.published ++ [event] }
  match service.publisher with
  | .absent => return ()
  | .recording => keep
  | .logging => Operation.note .info .events (eventText event)
  | .failing =>
    keep
    Operation.note .error .service
      ("Session event publisher failed event=" ++ name.text ++ " user_id=" ++ toString userId)

def checkPassword (password stored : String) : Operation Bool := do
  let verdict := Password.judge password stored
  if verdict = .unusable then
    note .warning .passwords "Stored password hash is not a valid bcrypt hash"
  return verdict.accepts

/-- A new token of a kind for a holder, who must have an id. -/
def issue (service : Service) (kind : Token.Kind) (holder : Token.Holder) : Operation String := do
  match holder.id with
  | none => breakDown .unidentifiedUser
  | some id =>
    let moment ← now
    let tokenId ← drawTokenId
    ofBreakdown (service.issuer.issue kind moment tokenId id holder.email)

def validate (service : Service) (kind : Token.Kind) (token : String) :
    Operation Token.Claims := do
  match service.issuer.validate (← now) kind token with
  | .ok claims => return claims
  | .error (.broken cause) => breakDown cause
  | .error (.rejected reason) =>
    note .debug .tokens ("Rejected " ++ kind.name ++ " token: " ++ reason.text)
    throw (Token.Fault.rejected reason).toFailure

end Service

def Account.holder (account : Account) : Token.Holder where
  id := some account.id
  email := some account.email

end AccountSessions
