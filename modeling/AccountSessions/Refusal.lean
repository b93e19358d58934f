/-!
# Refusals

A refusal is a failure that the caller is told about.  Its kind fixes a code for
programs, an HTTP status and a usual message.  The detail, for instance which check of a
token failed, is for the log alone.
-/

namespace AccountSessions

namespace Refusal

inductive Kind where
  | general
  | invalidCredentials
  | emailNotVerified
  | invalidToken
  | sessionNotLive
  | permissionDenied
  | userNotFound
  | duplicateUser
  | weakPassword (rule : String)
  | tokenCollision
  deriving DecidableEq, Repr

namespace Kind

def code : Kind → String
  | general => "auth_error"
  | invalidCredentials => "invalid_credentials"
  | emailNotVerified => "email_not_verified"
  | invalidToken => "invalid_token"
  | sessionNotLive => "token_not_found_or_revoked"
  | permissionDenied => "permission_denied"
  | userNotFound => "user_not_found"
  | duplicateUser => "duplicate_user"
  | weakPassword _ => "weak_password"
  | tokenCollision => "token_collision"

def status : Kind → Nat
  | general => 400
  | invalidCredentials | invalidToken | sessionNotLive => 401
  | emailNotVerified | permissionDenied => 403
  | userNotFound => 404
  | duplicateUser | tokenCollision => 409
  | weakPassword _ => 422

def usualMessage : Kind → String
  | general | weakPassword _ => "Authentication failed."
  | invalidCredentials => "Invalid username, email, or password."
  | emailNotVerified => "Email address has not been verified."
  | invalidToken => "Invalid or expired token."
  | sessionNotLive => "Refresh token not found, expired, or revoked."
  | permissionDenied => "Token does not belong to this user."
  | userNotFound => "User not found."
  | duplicateUser => "A user with that username or email already exists."
  | tokenCollision => "Refresh token already exists."

def rule? : Kind → Option String
  | weakPassword rule => some rule
  | _ => none

end Kind

end Refusal

structure Refusal where
  kind : Refusal.Kind
  message : String
  detail : Option String
  deriving DecidableEq, Repr

namespace Refusal

def usual (kind : Kind) : Refusal where
  kind := kind
  message := kind.usualMessage
  detail := none

/-- The refusal of a token, for a reason that is kept in the detail. -/
def ofToken (reason : String) : Refusal where
  kind := .invalidToken
  message := Kind.invalidToken.usualMessage
  detail := some reason

def ofPassword (rule message : String) : Refusal where
  kind := .weakPassword rule
  message := message
  detail := none

end Refusal

end AccountSessions
