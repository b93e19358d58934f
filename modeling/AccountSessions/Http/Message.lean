import AccountSessions.Json.Value

/-!
# Requests and responses

A request keeps its target, its headers and its body as they came in; names of headers
are the same in capital and small letters.  A response names its headers in small
letters.
-/

namespace AccountSessions.Http

structure Request where
  method : String
  target : String
  headers : List (String × String)
  body : List UInt8
  deriving Repr

def Request.header? (request : Request) (name : String) : Option String :=
  (request.headers.find? fun header => header.1.toLower == name).map Prod.snd

inductive Body where
  | json (value : Json)
  | text (content : String)
  deriving Repr

structure Response where
  status : Nat
  headers : List (String × String)
  body : Body
  deriving Repr

namespace Response

def jsonType : String × String := ("content-type", "application/json")

def plainType : String × String := ("content-type", "text/plain; charset=utf-8")

def json (status : Nat) (value : Json) : Response where
  status := status
  headers := [jsonType]
  body := .json value

def withHeader (response : Response) (name value : String) : Response :=
  { response with headers := response.headers ++ [(name, value)] }

/-- What goes out when the application has ended without a response. -/
def bare : Response := ⟨500, [], .text ""⟩

def unstored (response : Response) : Response :=
  response.withHeader "cache-control" "no-store"

end Response

end AccountSessions.Http
