import AccountSessions.Number.Binary64
import AccountSessions.Text.Quoted

/-!
# JSON values

A number keeps whether it was written as a whole number or as a decimal, and an object
keeps its members in the order of their first appearance, each name once.  Escapes can
spell half of a surrogate pair, which no character is; a string with such a half is
kept as its code points.
-/

namespace AccountSessions

/-- A string of characters, or a row of code points among which a surrogate stands
alone. -/
inductive JsonString where
  | plain (text : String)
  | broken (codes : List Nat)
  deriving DecidableEq, Repr

namespace JsonString

def isScalar (code : Nat) : Bool :=
  code < 0xD800 || (0xDFFF < code && code < 0x110000)

def ofCodes (codes : List Nat) : JsonString :=
  if codes.all isScalar then .plain (String.ofList (codes.map Char.ofNat)) else .broken codes

def codes : JsonString → List Nat
  | .plain text => text.toList.map Char.toNat
  | .broken codes => codes

def text? : JsonString → Option String
  | .plain text => some text
  | .broken _ => none

def isEmpty (s : JsonString) : Bool :=
  s.codes.isEmpty

end JsonString

inductive Json where
  | null
  | bool (value : Bool)
  | int (value : Int)
  | real (value : Binary64)
  | string (value : JsonString)
  | list (items : List Json)
  | object (members : List (JsonString × Json))
  deriving Repr

namespace Json

def text (s : String) : Json :=
  .string (.plain s)

def ofOption (encode : α → Json) : Option α → Json
  | some value => encode value
  | none => .null

def record (members : List (String × Json)) : Json :=
  .object (members.map fun (name, value) => (.plain name, value))

def member? (name : String) : Json → Option Json
  | .object members => (members.find? fun member => member.1 == .plain name).map Prod.snd
  | _ => none

/-- The members of an object, each name once: at its first place, with its last value. -/
def put (members : List (JsonString × Json)) (name : JsonString) (value : Json) :
    List (JsonString × Json) :=
  if members.any (·.1 == name) then
    members.map fun member => if member.1 == name then (name, value) else member
  else members ++ [(name, value)]

def isObject : Json → Bool
  | .object _ => true
  | _ => false

def isNull : Json → Bool
  | .null => true
  | _ => false

def text? : Json → Option String
  | .string value => value.text?
  | _ => none

def int? : Json → Option Int
  | .int value => some value
  | _ => none

end Json

end AccountSessions
