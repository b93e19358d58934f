import AccountSessions.Http.Message
import AccountSessions.Text.Blank
import AccountSessions.Text.Fields

/-!
# Requests from other origins

Browsers ask beforehand whether a page of another origin may send a request, and look
in every response for the origin that may read it.
-/

namespace AccountSessions.Http.CrossOrigin

def methods : List String := ["GET", "POST"]

def headers : List String :=
  ["Accept", "Accept-Language", "Authorization", "Content-Language", "Content-Type"]

/-- How long an answer given beforehand holds, in seconds. -/
def maxAge : Nat := 3600

def isPreflight (request : Request) : Bool :=
  request.method == "OPTIONS" && (request.header? "origin").isSome &&
    (request.header? "access-control-request-method").isSome

def varying (response : Response) : Response :=
  response.withHeader "vary" "Origin"

def share (origins : List String) (request : Request) (response : Response) : Response :=
  match request.header? "origin" with
  | some origin =>
    if origins.contains origin then response.withHeader "access-control-allow-origin" origin
    else response
  | none => response

def namedHeaders (list : String) : List String :=
  (Text.parts ',' list).map fun name =>
    String.ofList (Text.trimEnds Text.isWordBreak name.toLower.toList)

def refusals (origins : List String) (request : Request) : List String :=
  let asked := fun (name : String) (isFine : String → Bool) (refusal : String) =>
    match request.header? name with
    | some value => if isFine value then [] else [refusal]
    | none => []
  asked "origin" origins.contains "origin" ++
    asked "access-control-request-method" methods.contains "method" ++
    asked "access-control-request-headers"
      (fun list => (namedHeaders list).all (headers.map String.toLower).contains) "headers" ++
    asked "access-control-request-private-network" (fun _ => false) "private-network"

def preflight (origins : List String) (request : Request) : Response :=
  let (status, text) :=
    match refusals origins request with
    | [] => (200, "OK")
    | refusals => (400, "Disallowed CORS " ++ ", ".intercalate refusals)
  let response : Response := ⟨status, [Response.plainType], .text text⟩
  share origins request <| varying response
    |>.withHeader "access-control-allow-methods" (", ".intercalate methods)
    |>.withHeader "access-control-max-age" (toString maxAge)
    |>.withHeader "access-control-allow-headers" (", ".intercalate headers)

end AccountSessions.Http.CrossOrigin
