import AccountSessions.Http.CrossOrigin
import AccountSessions.Http.Target

/-!
# Sites

What the application takes from its surroundings: the origins it shares its responses with,
the name of its server, the hosts under which the address of a request can be read again,
and the pages that describe the interface.
-/

namespace AccountSessions.Http

/-! ### Pages about the interface -/

inductive Page where
  | schema
  | explorer
  | explorerReturn
  | reference
  deriving DecidableEq, Repr

namespace Page

def all : List Page := [schema, explorer, explorerReturn, reference]

def path : Page → String
  | schema => "/openapi.json"
  | explorer => "/docs"
  | explorerReturn => "/docs/oauth2-redirect"
  | reference => "/redoc"

/-- The methods are kept as a set: that the response to another one names them in this
order is a choice. -/
def methods : List String := ["GET", "HEAD"]

def contentType : Page → String × String
  | schema => Response.jsonType
  | explorer | explorerReturn | reference => ("content-type", "text/html; charset=utf-8")

def ofPath? (path : String) : Option Page :=
  all.find? fun page => Target.leadsTo path page.path

end Page

/-! ### Sites -/

structure Site where
  origins : List String
  server : String
  /-- Whether an address with this host can be taken apart again. -/
  readsHost : String → Bool
  /-- What stands on the pages about the interface. -/
  content : Page → Body

namespace Site

def response (site : Site) (page : Page) : Response where
  status := 200
  headers := [page.contentType]
  body := site.content page

/-- The host that the request names, or else the server itself. -/
def host (site : Site) (request : Request) : String :=
  (request.header? "host").getD site.server

/-- Whether the address of the request can be read.  The server knows its own. -/
def reads (site : Site) (request : Request) : Bool :=
  (request.header? "host").all site.readsHost

/-- The brackets around the address of a host must come in pairs. -/
def pairsBrackets (host : String) : Bool :=
  let name := host.toList.takeWhile fun c => c != '/' && c != '?' && c != '#'
  name.contains '[' == name.contains ']'

/-- A site that shares its responses with the origins. -/
def ofOrigins (origins : List String) : Site where
  origins := origins
  server := "testserver"
  readsHost := pairsBrackets
  content := fun _ => .text ""

end Site

end AccountSessions.Http
