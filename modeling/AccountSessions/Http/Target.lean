import AccountSessions.Json.Reader
import AccountSessions.Text.Fields
import AccountSessions.Text.Utf8

/-!
# Targets of requests

A target is a path and, behind a question mark, a query.  A path has lost its dot segments
when it is sent, and its escapes are resolved when it has come in.  In the answer to a
request a target is written so that only characters with a meaning there stand for
themselves.
-/

namespace AccountSessions.Http

structure Target where
  path : String
  query : String
  deriving DecidableEq, Repr

namespace Target

/-- The segments of a path without those that point to the same or the upper level; the
ones kept so far come in reverse. -/
def resolveDots (kept : List String) : List String → List String
  | [] => kept.reverse
  | "." :: rest => resolveDots kept rest
  | ".." :: rest =>
    if kept = [] ∨ kept = [""] then resolveDots kept rest else resolveDots kept.tail rest
  | segment :: rest => resolveDots (segment :: kept) rest

def unescapeBytes : List Char → List UInt8
  | '%' :: high :: low :: rest =>
    match Json.hexValue? high, Json.hexValue? low with
    | some h, some l => (h * 16 + l).toUInt8 :: unescapeBytes rest
    | _, _ => '%'.toNat.toUInt8 :: unescapeBytes (high :: low :: rest)
  | c :: rest => Text.Utf8.encodeChar c ++ unescapeBytes rest
  | [] => []

def unescape (path : String) : String :=
  match Text.Utf8.decode (unescapeBytes path.toList) with
  | .ok cs => String.ofList cs
  | .error _ => path

/-- The target that a client sends for an address.  It is the client that resolves the dot
segments and drops what stands behind a number sign; the escapes are left to the receiver. -/
def ofText (text : String) : Target where
  path :=
    let path := text.toList.takeWhile fun c => c != '?' && c != '#'
    unescape <| "/".intercalate <| resolveDots [] <| Text.parts '/' (String.ofList path)
  query :=
    String.ofList <| (text.toList.takeWhile (· != '#')).dropWhile (· != '?') |>.drop 1

/-- A path leads to a place also with a line break behind it. -/
def leadsTo (path place : String) : Bool :=
  path == place || path == place ++ "\n"

/-! ### Writing -/

def openSigns : List Char := "_.-~:/#?=@[]!$&'()*+,;".toList

def escapeByte (byte : UInt8) : List Char :=
  ['%', (Nat.digitChar (byte.toNat / 16)).toUpper, (Nat.digitChar (byte.toNat % 16)).toUpper]

/-- A run of characters with escapes for those that cannot stand; escapes are kept. -/
def escape : List Char → List Char
  | '%' :: high :: low :: rest =>
    if (Json.hexValue? high).isSome ∧ (Json.hexValue? low).isSome then
      '%' :: high :: low :: escape rest
    else escapeByte 0x25 ++ escape (high :: low :: rest)
  | c :: rest =>
    (if c.isAlphanum || openSigns.contains c then [c]
      else (Text.Utf8.encodeChar c).flatMap escapeByte) ++ escape rest
  | [] => []

def address (host path query : String) : String :=
  let tail := if query.isEmpty then [] else '?' :: query.toList
  String.ofList (escape ("http://".toList ++ host.toList ++ path.toList ++ tail))

end Target

end AccountSessions.Http
