import AccountSessions.Number.WholeNumber
import AccountSessions.Text.Quoted
import AccountSessions.Time.CivilTime

/-!
# Moments in text

The stored form has a fixed width, from the four digits of the year to the six of the
microsecond and the distance `+00:00`, so that the order of texts is the order of
moments.  Answers to requests leave out a fraction of zero and end in `Z`; the console
shows whole seconds.
-/

namespace AccountSessions.MomentText

/-- The last digits of a number, as many as the width. -/
def digits (width value : Nat) : List Char :=
  (List.range width).map fun place =>
    Char.ofNat ('0'.toNat + value / Nat.pow 10 (width - 1 - place) % 10)

def seconds (time : CivilTime) : List Char :=
  digits 4 time.year ++ '-' :: digits 2 time.month ++ '-' :: digits 2 time.day ++
    'T' :: digits 2 time.hour ++ ':' :: digits 2 time.minute ++ ':' :: digits 2 time.second

def fraction (time : CivilTime) : List Char :=
  '.' :: digits 6 time.microsecond

def universal : List Char := ['+', '0', '0', ':', '0', '0']

def stored (moment : Moment) : String :=
  let time := CivilTime.ofMoment moment
  String.ofList (seconds time ++ fraction time ++ universal)

def answered (moment : Moment) : String :=
  let time := CivilTime.ofMoment moment
  String.ofList (seconds time ++ (if time.microsecond = 0 then [] else fraction time) ++ ['Z'])

def shown (moment : Moment) : String :=
  String.ofList (seconds (CivilTime.ofMoment moment) ++ universal)

/-! ### Reading -/

inductive Fault where
  | malformed (text : String)
  | civil (fault : CivilTime.Fault)
  | outside
  deriving DecidableEq, Repr

def number? (cs : List Char) (start width : Nat) : Option Int :=
  let field := (cs.drop start).take width
  if field.length = width ∧ field.all WholeNumber.isAsciiDigit = true then
    some (WholeNumber.valueOf field)
  else none

def hasMarks (cs : List Char) : Bool :=
  cs.length == 32 && cs[4]? == some '-' && cs[7]? == some '-' && cs[10]? == some 'T' &&
    cs[13]? == some ':' && cs[16]? == some ':' && cs[19]? == some '.' && cs.drop 26 == universal

def read (text : String) : Except Fault Moment :=
  let cs := text.toList
  let parts := do
    guard (hasMarks cs)
    let year ← number? cs 0 4
    let month ← number? cs 5 2
    let day ← number? cs 8 2
    let hour ← number? cs 11 2
    let minute ← number? cs 14 2
    let second ← number? cs 17 2
    let microsecond ← number? cs 20 6
    return CivilTime.ofParts year month day hour minute second microsecond
  match parts with
  | none => .error (.malformed text)
  | some (.error fault) => .error (.civil fault)
  | some (.ok time) =>
    match time.toMoment? ⟨0⟩ with
    | some moment => .ok moment
    | none => .error .outside

/-- The moment that a column holds, if it holds any. -/
def restore (column : Option String) : Except Fault (Option Moment) :=
  match column with
  | none | some "" => .ok none
  | some text => (read text).map some

def Fault.message : Fault → String
  | .malformed text => "Invalid isoformat string: " ++ Text.Quoted.quote text
  | .civil fault => fault.message
  | .outside => "date value out of range"

end AccountSessions.MomentText
