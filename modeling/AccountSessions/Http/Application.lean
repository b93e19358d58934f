import AccountSessions.Http.Bearer
import AccountSessions.Http.Profile
import AccountSessions.Http.Rejection
import AccountSessions.Http.Site
import AccountSessions.Http.Submission
import AccountSessions.Json.Bytes
import AccountSessions.Service.Operations
import AccountSessions.Text.Fields

/-!
# The application

The routes of the service and what they answer.  A body is read before the caller is
identified, and the caller is identified before the fields of the body are checked.
Every response but the one to an unexpected failure tells how it depends on the origin.
Each response is entered in the log, under the path of the request, before it goes out.
-/

namespace AccountSessions.Http

def version : String := "0.1.0"

/-! ### Routes -/

inductive Route where
  | health
  | register
  | login
  | refresh
  | logout
  | logoutAll
  | identity
  deriving DecidableEq, Repr

namespace Route

def all : List Route := [health, register, login, refresh, logout, logoutAll, identity]

def path : Route → String
  | health => "/api/v1/health"
  | register => "/api/v1/auth/register"
  | login => "/api/v1/auth/login"
  | refresh => "/api/v1/auth/refresh"
  | logout => "/api/v1/auth/logout"
  | logoutAll => "/api/v1/auth/logout-all"
  | identity => "/api/v1/auth/me"

def method : Route → String
  | health | identity => "GET"
  | register | login | refresh | logout | logoutAll => "POST"

def ofPath? (path : String) : Option Route :=
  all.find? fun route => Target.leadsTo path route.path

end Route

/-! ### Handling -/

abbrev Handling := ExceptT Rejection (StateM State)

namespace Handling

def ofOperation (operation : Operation α) : Handling α :=
  ExceptT.adapt Rejection.failed operation

def contentType (value : String) : String :=
  (String.ofList <| Text.trimEnds Text.isWordBreak <| value.toList.takeWhile (· != ';')).toLower

def isJsonType (value : String) : Bool :=
  match Text.parts '/' (contentType value) with
  | ["application", subtype] => subtype == "json" || subtype.endsWith "+json"
  | _ => false

def readBody (request : Request) : Handling Json :=
  if request.body.isEmpty || !((request.header? "content-type").any isJsonType) then
    return .null
  else
    match Json.readBytes request.body with
    | .ok body => return body
    | .error .unreadable => throw .unreadable
    | .error (.malformed offset) => throw (.malformed offset)

def require (fields : Checked α) : Handling α :=
  match fields with
  | .sound fields => return fields
  | .flawed problems => throw (.invalid problems)

/-- The claims of the caller, who must present a token that counts. -/
def identify (service : Service) (request : Request) : Handling Token.Claims := do
  match (request.header? "authorization").bind bearerToken? with
  | none => throw .unauthenticated
  | some token =>
    tryCatch (ofOperation (service.validateToken token)) fun
      | .failed (.refused refusal) =>
        if refusal.kind = .invalidToken then throw .unauthenticated
        else throw (.failed (.refused refusal))
      | rejection => throw rejection

end Handling

open Handling

/-! ### Answers -/

def Session.toJson (session : Session) : Json :=
  .record
    [("user", (Profile.ofAccount session.account).toJson),
      ("access_token", .text session.accessToken), ("refresh_token", .text session.refreshToken),
      ("token_type", .text Session.tokenType), ("expires_in", .int session.expiresIn)]

def claimsToJson (claims : Token.Claims) : Checked Json :=
  let text := fun (name : String) (value : Json) => Checked.field name (Validation.readText value)
  (fun email tokenId tokenType => .record
    [("user_id", .int claims.userId), ("email", .text email), ("token_id", .text tokenId),
      ("token_type", .text tokenType),
      ("expires_at", .text (MomentText.answered claims.expiresAt))]) <$>
    text "email" (.string claims.email) <*> text "token_id" (.string claims.tokenId) <*>
    text "token_type" claims.tokenType

def healthBody (databaseAnswers : Bool) : Json :=
  .record
    [("status", .text (if databaseAnswers then "healthy" else "degraded")),
      ("version", .text version),
      ("components", .record
        [("app", .text "ok"), ("database", .text (if databaseAnswers then "ok" else "error"))])]

def probe : Operation Bool :=
  tryCatch Store.ping fun
    | .broken .databaseFailed => return false
    | failure => throw failure

def messageBody (message : String) (more : List (String × Json)) : Json :=
  .record (("message", .text message) :: more)

def Route.serve (service : Service) (request : Request) : Route → Handling Response
  | .health => do
    return .json 200 (healthBody (← ofOperation probe))
  | .register => do
    let form ← require (Registration.read (← readBody request))
    let account ← ofOperation (service.register form.username form.email form.password form.name)
    return .json 201 (Profile.ofAccount account).toJson
  | .login => do
    let form ← require (Credentials.read (← readBody request))
    let session ← ofOperation (service.login form.identifier form.password)
    return (Response.json 200 (Session.toJson session)).unstored
  | .refresh => do
    let form ← require (SessionTicket.read (← readBody request))
    let session ← ofOperation (service.refresh form.refreshToken)
    return (Response.json 200 (Session.toJson session)).unstored
  | .logout => do
    let body ← readBody request
    let claims ← identify service request
    let form ← require (SessionTicket.read body)
    ofOperation (service.logout claims.userId form.refreshToken)
    return .json 200 (messageBody "Logged out." [])
  | .logoutAll => do
    let claims ← identify service request
    let count ← ofOperation (service.logoutAll claims.userId)
    return .json 200 (messageBody "Logged out everywhere." [("revoked", .int count)])
  | .identity => do
    let claims ← identify service request
    match claimsToJson claims with
    | .sound body => return .json 200 body
    | .flawed _ => throw (.failed (.broken .unshowableClaims))

/-! ### The whole -/

/-- The path without the slashes at its end, if it leads somewhere then. -/
def besidePath? (path : String) : Option String :=
  let shorter := String.ofList (path.toList.reverse.dropWhile (· == '/')).reverse
  if path.endsWith "/" && ((Route.ofPath? shorter).isSome || (Page.ofPath? shorter).isSome) then
    some shorter
  else none

def redirection (host path query : String) : Response where
  status := 307
  headers := [("location", Target.address host path query)]
  body := .text ""

/-- What a request comes to that no route of the service is for. -/
def elsewhere (site : Site) (request : Request) : Except Rejection Response :=
  let target := Target.ofText request.target
  match Page.ofPath? target.path with
  | some page =>
    if request.method ∈ Page.methods then .ok (site.response page)
    else .error (.wrongMethod (", ".intercalate Page.methods))
  | none =>
    match besidePath? target.path with
    | some path => .ok (redirection (site.host request) path target.query)
    | none => .error .unknownPath

def dispatch (service : Service) (site : Site) (request : Request) : Handling Response :=
  match Route.ofPath? (Target.ofText request.target).path with
  | some route =>
    if request.method = route.method then route.serve service request
    else throw (.wrongMethod route.method)
  | none => liftExcept (elsewhere site request)

/-- The response that is shared with other origins, or the breakdown behind an unexpected
failure. -/
def attend (service : Service) (site : Site) (request : Request) :
    StateM State (Except Breakdown Response) := do
  if CrossOrigin.isPreflight request then
    return .ok (CrossOrigin.preflight site.origins request)
  let varied := fun response =>
    CrossOrigin.share site.origins request (CrossOrigin.varying response)
  match ← (dispatch service site request).run with
  | .ok response => return .ok (varied response)
  | .error (.failed (.broken cause)) => return .error cause
  | .error rejection => return .ok (varied rejection.response)

def report : Except Breakdown Response → Response
  | .ok response => response
  | .error cause => (Rejection.failed (.broken cause)).response

/-- The entry in the log is made last, and so is that on an unexpected failure.  If the
path to be named there cannot be read from the address, no response is left. -/
def respond (service : Service) (site : Site) (request : Request) : StateM State Response := do
  let outcome ← attend service site request
  return if site.reads request then report outcome else .bare

end AccountSessions.Http
