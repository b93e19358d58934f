import AccountSessions.Text.Blank
import AccountSessions.Text.Numerals

/-!
# Whole numbers in text

A whole number may have blanks around it, a sign, single underscores between its
digits, and digits of any script.  A run of more than 4300 digits is refused before
anything behind it is looked at.
-/

namespace AccountSessions.WholeNumber

/-- The longest run of digits that is converted. -/
def digitLimit : Nat := 4300

def fitsWord (value : Int) : Bool :=
  -0x8000000000000000 ≤ value && value < 0x8000000000000000

inductive Fault where
  | malformed
  | tooManyDigits (count : Nat)
  deriving DecidableEq, Repr

def isAsciiDigit (c : Char) : Bool :=
  '0' ≤ c && c ≤ '9'

def valueOf (digits : List Char) : Nat :=
  digits.foldl (fun value c => value * 10 + (c.toNat - '0'.toNat)) 0

/-- A value beyond ASCII takes part as the digit or the blank it is; the text ends at a
character that is neither, with a mark that no number holds. -/
def asciiSpelling : List Char → List Char
  | [] => []
  | c :: rest =>
    if c.toNat < 0x80 then c :: asciiSpelling rest
    else if Text.isWordBreak c then ' ' :: asciiSpelling rest
    else
      match Text.decimalValue? c with
      | some value => Char.ofNat ('0'.toNat + value) :: asciiSpelling rest
      | none => ['?']

def isOuterBlank (c : Char) : Bool :=
  c == ' ' || (0x9 ≤ c.toNat && c.toNat ≤ 0xD)

/-- No underscore stands first, last or beside another. -/
def underscoresPart (run : List Char) : Bool :=
  go true run
where
  go (afterMark : Bool) : List Char → Bool
    | [] => !afterMark
    | '_' :: rest => !afterMark && go true rest
    | _ :: rest => go false rest

def takeSign : List Char → Bool × List Char
  | '-' :: rest => (true, rest)
  | '+' :: rest => (false, rest)
  | cs => (false, cs)

def applySign (negative : Bool) (value : Nat) : Int :=
  if negative then -(value : Int) else value

def read (cs : List Char) : Except Fault Int :=
  let (negative, body) := takeSign ((asciiSpelling cs).dropWhile isOuterBlank)
  let isPart := fun c => isAsciiDigit c || c == '_'
  let run := body.takeWhile isPart
  let rest := body.dropWhile isPart
  let digits := run.filter isAsciiDigit
  if !underscoresPart run then .error .malformed
  else if digitLimit < digits.length then .error (.tooManyDigits digits.length)
  else if rest.all isOuterBlank then .ok (applySign negative (valueOf digits))
  else .error .malformed

def tooManyDigitsMessage (count : Nat) : String :=
  "Exceeds the limit (" ++ toString digitLimit ++ " digits) for integer string conversion: value has " ++
    toString count ++ " digits; use sys.set_int_max_str_digits() to increase the limit"

end AccountSessions.WholeNumber
