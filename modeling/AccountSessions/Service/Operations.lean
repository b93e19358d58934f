import AccountSessions.Service.Basic

/-!
# The operations of the service

Registration, login, refresh, logout, administration and the check of bearer tokens.  A
refresh token is handed out only when its record has been stored, and it counts only
while its record is live.  An unknown identifier and a wrong password are refused alike
and cost the same check of a password.
-/

namespace AccountSessions.Service

open Operation

/-! ### Registration -/

def present (account : Option Account) : Operation Account :=
  match account with
  | some account => return account
  | none => breakDown .missingAccount

def register (service : Service) (username email password name : String) : Operation Account := do
  note .info .service ("Registration attempt username=" ++ username)
  match service.policy.check password with
  | some violation =>
    note .warning .service
      ("Registration rejected by password policy rule=" ++ violation.rule.name ++ " username=" ++
        username)
    throw (.refused (.ofPassword violation.rule.name violation.message))
  | none => pure ()
  if ← Store.accountExists username email then
    note .warning .service
      ("Registration with existing username or email username=" ++ username)
    refuse .duplicateUser
  let salt ← drawSalt
  let hash ← ofBreakdown (Password.hash service.hasher.rounds salt password)
  let id ← Store.createAccount
    { username := some username
      email := some email
      passwordHash := some hash
      name := some name
      emailVerified := false
      isActive := true }
  let created ← Store.accountById id
  note .info .service ("User registered id=" ++ toString id ++ " username=" ++ username)
  service.publish .registered id (.username username)
  return (← present created).withoutHash

def verifyEmail (userId : Int) : Operation Account := do
  if !(← Store.markVerified userId) then
    refuse .userNotFound
  note .info .service ("Email verified user_id=" ++ toString userId)
  return (← present (← Store.accountById userId)).withoutHash

/-! ### Sessions -/

def session (service : Service) (account : Account) (accessToken refreshToken : String) :
    Session where
  account := account.withoutHash
  accessToken := accessToken
  refreshToken := refreshToken
  expiresIn := service.issuer.accessTtl.micros.tdiv Duration.microsPerSecond

def login (service : Service) (identifier password : String) : Operation Session := do
  note .info .service "Login attempt"
  match ← Store.accountByIdentifier identifier with
  | none =>
    let _ ← checkPassword password service.hasher.dummyHash
    note .warning .service "Login failed: no matching user"
    refuse .invalidCredentials
  | some account =>
    let user := " user_id=" ++ toString account.id
    if !account.emailVerified then
      note .warning .service ("Login attempt with unverified email" ++ user)
      refuse .emailNotVerified
    if !(← checkPassword password account.passwordHash) then
      note .warning .service ("Login failed: wrong password" ++ user)
      refuse .invalidCredentials
    if !account.isActive then
      note .warning .service ("Login attempt on inactive account" ++ user)
      refuse .invalidCredentials
    let accessToken ← service.issue .access account.holder
    let refreshToken ← service.issue .refresh account.holder
    match (← now).add? service.issuer.refreshTtl with
    | none => breakDown .dateOutOfRange
    | some expiresAt =>
      let _ ← Store.createRecord account.id refreshToken expiresAt
      let moment ← Store.stampLogin account.id none
      note .info .service ("Login successful" ++ user)
      service.publish .loggedIn account.id .nothing
      return service.session { account with lastLoginAt := some moment } accessToken refreshToken

def validateRefresh (service : Service) (token : String) (report : String → String) :
    Operation Token.Claims :=
  tryCatch (service.validate .refresh token) fun failure => do
    match failure with
    | .refused refusal => note .warning .service (report (refusal.detail.getD "None"))
    | .broken _ => pure ()
    throw failure

def refresh (service : Service) (token : String) : Operation Session := do
  let claims ← service.validateRefresh token ("Refresh rejected: " ++ ·)
  match ← Store.accountById claims.userId with
  | none =>
    note .warning .service ("Refresh for unknown user_id=" ++ toString claims.userId)
    refuse .userNotFound
  | some account =>
    if (← Store.liveRecord token).isNone then
      note .warning .service
        ("Refresh with missing, expired, or revoked session user_id=" ++ toString account.id)
      refuse .sessionNotLive
    let accessToken ← service.issue .access account.holder
    note .info .service ("Token refresh successful user_id=" ++ toString account.id)
    return service.session account accessToken token

def logout (service : Service) (userId : Int) (token : String) : Operation Unit := do
  let user := " user_id=" ++ toString userId
  let claims ← service.validateRefresh token fun reason => "Logout rejected: " ++ reason ++ user
  if claims.userId ≠ userId then
    note .warning .service
      ("Logout with token of user_id=" ++ toString claims.userId ++ " by" ++ user)
    refuse .permissionDenied
  if !(← Store.revokeRecord token) then
    match ← Store.findRecord token with
    | none => note .warning .service ("Logout with unknown session" ++ user)
    | some _ => note .warning .service ("Logout with already revoked session" ++ user)
    refuse .sessionNotLive
  note .info .service ("Logout successful" ++ user)
  service.publish .loggedOut userId .nothing

def logoutAll (service : Service) (userId : Int) : Operation Nat := do
  let count ← Store.revokeAllRecords userId
  service.publish .loggedOutEverywhere userId (.revoked count)
  return count

/-! ### Administration -/

def deactivate (userId : Int) : Operation Nat := do
  if !(← Store.setActive userId false) then
    refuse .userNotFound
  let count ← Store.revokeAllRecords userId
  note .info .service
    ("User deactivated user_id=" ++ toString userId ++ " revoked=" ++ toString count)
  return count

def activate (userId : Int) : Operation Unit := do
  if !(← Store.setActive userId true) then
    refuse .userNotFound
  note .info .service ("User activated user_id=" ++ toString userId)

def listSessions (userId : Int) : Operation (List SessionRecord) :=
  Store.listRecords userId

def purge : Operation Nat :=
  Store.sweepRecords

/-! ### Bearer tokens -/

/-- The claims of a token that authenticates a request: an access token, or a refresh
token whose record is live. -/
def validateToken (service : Service) (token : String) : Operation Token.Claims :=
  tryCatch (service.validate .access token) fun failure => do
    match failure with
    | .broken cause => breakDown cause
    | .refused _ =>
      let claims ← service.validate .refresh token
      if (← Store.liveRecord token).isNone then
        throw (Token.Fault.rejected .noLiveSession).toFailure
      return claims

end AccountSessions.Service
