import AccountSessions.Failure
import AccountSessions.Http.Message
import AccountSessions.Json.Writer
import AccountSessions.Validation

/-!
# Rejections

The ways in which a request is not served, and the response to each.  A failure that no
caller is expected to handle is answered without a word about its cause.
-/

namespace AccountSessions.Http

def envelope (code message : String) (detail : Option String) : Json :=
  .record
    [("error", .record
      [("code", .text code), ("message", .text message),
        ("detail", .ofOption .text detail)])]

/-! ### Statuses with a detail -/

def phrases : List (Nat × String) :=
  [(100, "Continue"), (101, "Switching Protocols"), (102, "Processing"), (103, "Early Hints"),
    (200, "OK"), (201, "Created"), (202, "Accepted"), (203, "Non-Authoritative Information"),
    (204, "No Content"), (205, "Reset Content"), (206, "Partial Content"), (207, "Multi-Status"),
    (208, "Already Reported"), (226, "IM Used"), (300, "Multiple Choices"),
    (301, "Moved Permanently"), (302, "Found"), (303, "See Other"), (304, "Not Modified"),
    (305, "Use Proxy"), (307, "Temporary Redirect"), (308, "Permanent Redirect"),
    (400, "Bad Request"), (401, "Unauthorized"), (402, "Payment Required"), (403, "Forbidden"),
    (404, "Not Found"), (405, "Method Not Allowed"), (406, "Not Acceptable"),
    (407, "Proxy Authentication Required"), (408, "Request Timeout"), (409, "Conflict"),
    (410, "Gone"), (411, "Length Required"), (412, "Precondition Failed"),
    (413, "Request Entity Too Large"), (414, "Request-URI Too Long"),
    (415, "Unsupported Media Type"), (416, "Requested Range Not Satisfiable"),
    (417, "Expectation Failed"), (418, "I'm a Teapot"), (421, "Misdirected Request"),
    (422, "Unprocessable Entity"), (423, "Locked"), (424, "Failed Dependency"),
    (425, "Too Early"), (426, "Upgrade Required"), (428, "Precondition Required"),
    (429, "Too Many Requests"), (431, "Request Header Fields Too Large"),
    (451, "Unavailable For Legal Reasons"), (500, "Internal Server Error"),
    (501, "Not Implemented"), (502, "Bad Gateway"), (503, "Service Unavailable"),
    (504, "Gateway Timeout"), (505, "HTTP Version Not Supported"),
    (506, "Variant Also Negotiates"), (507, "Insufficient Storage"), (508, "Loop Detected"),
    (510, "Not Extended"), (511, "Network Authentication Required")]

def phrase? (status : Nat) : Option String :=
  (phrases.find? (·.1 == status)).map Prod.snd

/-- The body for a status: an object is the error itself, and anything else becomes its
message. -/
def statusBody (status : Nat) (detail : Json) : Except Breakdown Json :=
  match detail with
  | .object members =>
    let body := Json.record [("error", .object members)]
    if body.hasDigits then .ok body else .error .unsendableNumber
  | .null =>
    match phrase? status with
    | some phrase => .ok (envelope ("http_" ++ toString status) phrase none)
    | none => .error (.unknownStatus status)
  | detail => .ok (envelope ("http_" ++ toString status) detail.display none)

def sentHeader (header : String × String) : Except Breakdown (String × String) :=
  if header.2.toList.all (·.toNat ≤ 0xFF) then .ok (header.1.toLower, header.2)
  else .error (.unsendableHeader header.2)

def Response.ofStatus (status : Nat) (detail : Json) (headers : List (String × String)) :
    Except Breakdown Response := do
  let body ← statusBody status detail
  let headers ← headers.mapM sentHeader
  let type := if headers.any (·.1 == "content-type") then [] else [Response.jsonType]
  return { status, headers := headers ++ type, body := .json body }

/-! ### Rejections -/

inductive Rejection where
  | invalid (problems : List Problem)
  | malformed (offset : Nat)
  | unreadable
  | unauthenticated
  | unknownPath
  | wrongMethod (allowed : String)
  | failed (failure : Failure)
  deriving Repr

namespace Rejection

def places (problems : List Problem) : String :=
  ", ".intercalate <| problems.map fun problem =>
    ".".intercalate ("body" :: problem.place.map Place.text)

def invalidResponse (detail : String) : Response :=
  .json 422 (envelope "validation_error" "Request validation failed." (some detail))

def plainResponse (status : Nat) (detail : String) : Response :=
  .json status (.record [("detail", .text detail)])

def challenged (response : Response) : Response :=
  response.withHeader "www-authenticate" "Bearer"

/-- The detail of a refusal is kept back, except for the rule a password breaks. -/
def refusalResponse (refusal : Refusal) : Response :=
  let kind := refusal.kind
  let response := (Response.json kind.status
    (envelope kind.code refusal.message kind.rule?)).unstored
  if kind.status = 401 then challenged response else response

def unexpectedResponse : Response :=
  .json 500 (envelope "internal_error" "An unexpected error occurred." none)

def unauthenticatedResponse : Response :=
  challenged <| .json 401 <| .record
    [("error", .record
      [("code", .text "unauthorized"), ("message", .text "Authentication required.")])]

def response : Rejection → Response
  | invalid problems => invalidResponse (places problems)
  | malformed offset => invalidResponse ("body." ++ toString offset)
  | unreadable => plainResponse 400 "There was an error parsing the body"
  | unauthenticated => unauthenticatedResponse
  | unknownPath => plainResponse 404 "Not Found"
  | wrongMethod allowed => (plainResponse 405 "Method Not Allowed").withHeader "allow" allowed
  | failed (.refused refusal) => refusalResponse refusal
  | failed (.broken _) => unexpectedResponse

end Rejection

end AccountSessions.Http
