import AccountSessions.Json.Value
import AccountSessions.Number.Shortest

/-!
# Writing JSON

The compact form: no blanks, and nothing beyond printable ASCII.  A character beyond
U+FFFF becomes the two escapes of its surrogate pair.
-/

namespace AccountSessions.Json

def unitEscape (unit : Nat) : List Char :=
  '\\' :: 'u' :: Text.Quoted.hex 4 unit

def writeCode (code : Nat) : List Char :=
  if code = 0x22 then ['\\', '"']
  else if code = 0x5C then ['\\', '\\']
  else if code = 0x8 then ['\\', 'b']
  else if code = 0xC then ['\\', 'f']
  else if code = 0xA then ['\\', 'n']
  else if code = 0xD then ['\\', 'r']
  else if code = 0x9 then ['\\', 't']
  else if 0x20 ≤ code ∧ code < 0x7F then [Char.ofNat code]
  else if code < 0x10000 then unitEscape code
  else
    unitEscape (0xD800 + (code - 0x10000) / 0x400) ++
      unitEscape (0xDC00 + (code - 0x10000) % 0x400)

def writeString (s : JsonString) : List Char :=
  '"' :: s.codes.flatMap writeCode ++ ['"']

def numberNames : Binary64.Names where
  infinity := "Infinity"
  notANumber := "NaN"

mutual

def write : Json → List Char
  | .null => "null".toList
  | .bool true => "true".toList
  | .bool false => "false".toList
  | .int value => (toString value).toList
  | .real value => (value.text numberNames).toList
  | .string value => writeString value
  | .list items => '[' :: writeItems items
  | .object members => '{' :: writeMembers members

def writeItems : List Json → List Char
  | [] => [']']
  | [item] => write item ++ [']']
  | item :: items => write item ++ ',' :: writeItems items

def writeMembers : List (JsonString × Json) → List Char
  | [] => ['}']
  | [(name, value)] => writeString name ++ ':' :: write value ++ ['}']
  | (name, value) :: members =>
    writeString name ++ ':' :: write value ++ ',' :: writeMembers members

end

mutual

def hasDigits : Json → Bool
  | .real number => number.truncate?.isSome
  | .list items => itemsHaveDigits items
  | .object members => membersHaveDigits members
  | _ => true

def itemsHaveDigits : List Json → Bool
  | [] => true
  | item :: items => hasDigits item && itemsHaveDigits items

def membersHaveDigits : List (JsonString × Json) → Bool
  | [] => true
  | (_, value) :: members => hasDigits value && membersHaveDigits members

end

def compact (value : Json) : String :=
  String.ofList value.write

end AccountSessions.Json
