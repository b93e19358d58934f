import AccountSessions.Json.Value
import AccountSessions.Number.Shortest

/-!
# Values in reports

Reports show a JSON value in a notation of their own: strings in quotes chosen by
`Text.Quoted`, a blank behind commas and colons, and the words `None`, `True`, `False`,
`inf` and `nan`.  As the whole of a report a string stands without quotes.
-/

namespace AccountSessions.Json

def literalNames : Binary64.Names where
  infinity := "inf"
  notANumber := "nan"

def quoteString (s : JsonString) : String :=
  String.ofList (Text.Quoted.quoted s.codes)

mutual

def literal : Json → String
  | .null => "None"
  | .bool true => "True"
  | .bool false => "False"
  | .int value => toString value
  | .real value => value.text literalNames
  | .string value => quoteString value
  | .list items => "[" ++ String.intercalate ", " (itemLiterals items) ++ "]"
  | .object members => "\x7b" ++ String.intercalate ", " (memberLiterals members) ++ "\x7d"

def itemLiterals : List Json → List String
  | [] => []
  | item :: items => literal item :: itemLiterals items

def memberLiterals : List (JsonString × Json) → List String
  | [] => []
  | (name, value) :: members => (quoteString name ++ ": " ++ literal value) :: memberLiterals members

end

def display : Json → String
  | .string (.plain text) => text
  | value => value.literal

def kindName : Json → String
  | .null => "NoneType"
  | .bool _ => "bool"
  | .int _ => "int"
  | .real _ => "float"
  | .string _ => "str"
  | .list _ => "list"
  | .object _ => "dict"

end AccountSessions.Json
