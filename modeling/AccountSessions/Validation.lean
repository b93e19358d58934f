import AccountSessions.Json.Value

/-!
# Validation of submitted values

A problem says what is wrong with a submitted value and where the value stands.  Request
bodies and settings report their problems in the same words, in the order of their
fields.
-/

namespace AccountSessions

inductive Flaw where
  | missing
  | notText
  | notCharacters
  | tooShort (least : Nat)
  | tooLong (greatest : Nat)
  | mismatch (pattern : String)
  | notAModel (model : String)
  | notABool
  | unreadableBool
  | notWhole
  | unreadableWhole
  | oversizedWhole
  | fractional
  | notFinite
  | notANumber
  | unreadableNumber
  | notAbove (bound : Int)
  | below (bound : Int)
  | above (bound : Int)
  | notAList
  | contradiction (text : String)
  deriving DecidableEq, Repr

inductive Place where
  | field (name : String)
  | item (index : Nat)
  deriving DecidableEq, Repr

structure Problem where
  flaw : Flaw
  place : List Place
  deriving DecidableEq, Repr

def Place.text : Place → String
  | field name => name
  | item index => toString index

def Flaw.name : Flaw → String
  | missing => "missing"
  | notText => "string_type"
  | notCharacters => "string_unicode"
  | tooShort _ => "string_too_short"
  | tooLong _ => "string_too_long"
  | mismatch _ => "string_pattern_mismatch"
  | notAModel _ => "model_type"
  | notABool => "bool_type"
  | unreadableBool => "bool_parsing"
  | notWhole => "int_type"
  | unreadableWhole => "int_parsing"
  | oversizedWhole => "int_parsing_size"
  | fractional => "int_from_float"
  | notFinite => "finite_number"
  | notANumber => "float_type"
  | unreadableNumber => "float_parsing"
  | notAbove _ => "greater_than"
  | below _ => "greater_than_equal"
  | above _ => "less_than_equal"
  | notAList => "list_type"
  | contradiction _ => "value_error"

def characterCount (count : Nat) : String :=
  toString count ++ (if count = 1 then " character" else " characters")

def Flaw.message : Flaw → String
  | missing => "Field required"
  | notText => "Input should be a valid string"
  | notCharacters => "Input should be a valid string, unable to parse raw data as a unicode string"
  | tooShort least => "String should have at least " ++ characterCount least
  | tooLong greatest => "String should have at most " ++ characterCount greatest
  | mismatch pattern => "String should match pattern '" ++ pattern ++ "'"
  | notAModel model => "Input should be a valid dictionary or instance of " ++ model
  | notABool => "Input should be a valid boolean"
  | unreadableBool => "Input should be a valid boolean, unable to interpret input"
  | notWhole => "Input should be a valid integer"
  | unreadableWhole => "Input should be a valid integer, unable to parse string as an integer"
  | oversizedWhole => "Unable to parse input string as an integer, exceeded maximum size"
  | fractional => "Input should be a valid integer, got a number with a fractional part"
  | notFinite => "Input should be a finite number"
  | notANumber => "Input should be a valid number"
  | unreadableNumber => "Input should be a valid number, unable to parse string as a number"
  | notAbove bound => "Input should be greater than " ++ toString bound
  | below bound => "Input should be greater than or equal to " ++ toString bound
  | above bound => "Input should be less than or equal to " ++ toString bound
  | notAList => "Input should be a valid list"
  | contradiction text => "Value error, " ++ text

/-- The outcome of checks that do not stop at the first problem. -/
inductive Checked (α : Type) where
  | sound (value : α)
  | flawed (problems : List Problem)
  deriving Repr

namespace Checked

def problems : Checked α → List Problem
  | sound _ => []
  | flawed problems => problems

/-- The outcome of two checks, of which the first finds what to do with the second's
value.  The problems of both are kept. -/
def apply (f : Checked (α → β)) (x : Checked α) : Checked β :=
  match f, x with
  | sound f, sound x => sound (f x)
  | f, x => flawed (f.problems ++ x.problems)

instance : Applicative Checked where
  pure := sound
  seq f x := f.apply (x ())

def ofFlaw (place : List Place) : Except Flaw α → Checked α
  | .ok value => sound value
  | .error flaw => flawed [⟨flaw, place⟩]

def field (name : String) (value : Except Flaw α) : Checked α :=
  ofFlaw [.field name] value

def all : List (Checked α) → Checked (List α)
  | [] => sound []
  | x :: xs => List.cons <$> x <*> all xs

end Checked

end AccountSessions
