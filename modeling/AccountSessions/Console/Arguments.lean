import AccountSessions.Number.WholeNumber
import AccountSessions.Text.Quoted

/-!
# Arguments of a command line

An argument is an option if it begins with a dash, unless it looks like a negative
number or holds a blank; behind `--` nothing is an option.  The only option there is
asks for help.  A form has at most one slot for other arguments, and what does not fit
the form is left over.
-/

namespace AccountSessions.Console

inductive Reading where
  | plain
  | ending
  | unknownOption
  | help
  /-- A request for help with a value, whether its name is the single letter, and
  whether a sign parts the value from the name. -/
  | helpWith (value : String) (isLetter isParted : Bool)
  deriving DecidableEq, Repr

namespace Reading

def partAtSign (argument : List Char) : List Char × Option (List Char) :=
  match argument.dropWhile (· != '=') with
  | [] => (argument, none)
  | _ :: value => (argument.takeWhile (· != '='), some value)

def isDigit (c : Char) : Bool :=
  (Text.decimalValue? c).isSome

/-- Digits, with a point before the last of them or none; a line may end behind them. -/
def isNumber (cs : List Char) : Bool :=
  let cs := if cs.getLast? = some '\n' then cs.dropLast else cs
  match cs.dropWhile isDigit with
  | [] => !cs.isEmpty
  | '.' :: places => !places.isEmpty && places.all isDigit
  | _ => false

def helpName : List Char := "--help".toList

def ofLongOption? (argument : List Char) : Option Reading :=
  let (name, value) := partAtSign argument
  if name.isPrefixOf helpName then
    match value with
    | none => some .help
    | some value => some (.helpWith (String.ofList value) false true)
  else none

def ofLetters : List Char → Reading
  | [] => .help
  | '=' :: value => .helpWith (String.ofList value) true true
  | value => .helpWith (String.ofList value) true false

def ofOther (argument : List Char) : Reading :=
  if isNumber (argument.drop 1) || argument.contains ' ' then .plain else .unknownOption

def ofArgument (argument : String) : Reading :=
  match argument.toList with
  | '-' :: '-' :: [] => .ending
  | '-' :: '-' :: rest => (ofLongOption? ('-' :: '-' :: rest)).getD (ofOther ('-' :: '-' :: rest))
  | '-' :: 'h' :: rest => ofLetters rest
  | '-' :: [] => .plain
  | '-' :: rest => ofOther ('-' :: rest)
  | _ => .plain

end Reading

def readings : List String → List (Reading × String)
  | [] => []
  | argument :: rest =>
    match Reading.ofArgument argument with
    | .ending => (.ending, argument) :: rest.map (.plain, ·)
    | reading => (reading, argument) :: readings rest

inductive Stop where
  | help
  | valueOfHelp (value : String)
  deriving DecidableEq, Repr

/-- What a request for help with a value comes to: letters behind the letter of help
are taken one by one, and only those of help before the first other one count. -/
def stopOfLetters : List Char → Stop
  | 'h' :: '=' :: value => .valueOfHelp (String.ofList value)
  | 'h' :: rest => stopOfLetters rest
  | '-' :: rest => .valueOfHelp (String.ofList ('-' :: rest))
  | _ => .help

def stopOfValue (value : String) (isLetter isParted : Bool) : Stop :=
  if isLetter && !isParted then stopOfLetters value.toList else .valueOfHelp value

inductive Slot where
  | nothing
  | single
  | rest
  deriving DecidableEq, Repr

structure Filling where
  taken : Option (List String)
  extra : List String
  deriving DecidableEq, Repr

/-- Fills the slot with the first arguments that fit; the arguments left over so far come
in reverse. -/
def fill (slot : Slot) (taken : Option (List String)) (extra : List String) :
    List (Reading × String) → Except Stop Filling
  | [] => .ok ⟨taken, extra.reverse⟩
  | (.help, _) :: _ => .error .help
  | (.helpWith value isLetter isParted, _) :: _ => .error (stopOfValue value isLetter isParted)
  | (.unknownOption, argument) :: rest => fill slot taken (argument :: extra) rest
  | (.ending, mark) :: (.plain, argument) :: rest =>
    match slot with
    | .single => fill .nothing (some [argument]) extra rest
    | .rest => .ok ⟨some (mark :: argument :: rest.map Prod.snd), extra.reverse⟩
    | .nothing => fill slot taken (argument :: mark :: extra) rest
  | (.plain, argument) :: (.ending, mark) :: rest =>
    match slot with
    | .single => fill .nothing (some [argument]) extra rest
    | .rest => .ok ⟨some (argument :: mark :: rest.map Prod.snd), extra.reverse⟩
    | .nothing => fill slot taken (argument :: extra) ((.ending, mark) :: rest)
  | (.plain, argument) :: rest =>
    match slot with
    | .single => fill .nothing (some [argument]) extra rest
    | .rest => .ok ⟨some (argument :: rest.map Prod.snd), extra.reverse⟩
    | .nothing => fill slot taken (argument :: extra) rest
  | (.ending, mark) :: rest => fill slot taken (mark :: extra) rest

end AccountSessions.Console
