import AccountSessions.Json.Value
import AccountSessions.Number.WholeNumber

/-!
# Reading JSON

One value with blanks around it.  Besides the standard's values the words `NaN`,
`Infinity` and `-Infinity` are read.  Containers may be nested to a given depth, and a
whole number may have as many digits as `WholeNumber.digitLimit` admits.  A fault names
what was expected and how much of the text was still to be read, from which its line
and column follow.
-/

namespace AccountSessions.Json

inductive Problem where
  | expectingValue
  | expectingComma
  | expectingColon
  | expectingName
  | unterminatedString
  | invalidControl
  | invalidEscape
  | invalidCodeEscape
  | extraData
  | byteOrderMark
  deriving DecidableEq, Repr

inductive Container where
  | array
  | object
  deriving DecidableEq, Repr

/-- Why a text cannot be read, with the number of characters that were left at the
fault. -/
inductive Fault where
  | malformed (problem : Problem) (remaining : Nat)
  | tooManyDigits (count : Nat)
  | tooDeep (container : Container)
  deriving DecidableEq, Repr

/-- What becomes of a number: its value, or its spelling as a string. -/
inductive NumberReading where
  | values
  | spellings
  deriving DecidableEq, Repr

abbrev Reading (α : Type) := Except Fault (α × List Char)

def isSpace (c : Char) : Bool :=
  c == ' ' || c == '\t' || c == '\n' || c == '\r'

def skipSpace (cs : List Char) : List Char :=
  cs.dropWhile isSpace

/-! ### Strings -/

def hexValue? (c : Char) : Option Nat :=
  if '0' ≤ c ∧ c ≤ '9' then some (c.toNat - '0'.toNat)
  else if 'a' ≤ c ∧ c ≤ 'f' then some (c.toNat - 'a'.toNat + 10)
  else if 'A' ≤ c ∧ c ≤ 'F' then some (c.toNat - 'A'.toNat + 10)
  else none

def hexCode? : List Char → Option (Nat × List Char)
  | a :: b :: c :: d :: e :: rest => do
    let a ← hexValue? a
    let b ← hexValue? b
    let c ← hexValue? c
    let d ← hexValue? d
    return (((a * 16 + b) * 16 + c) * 16 + d, e :: rest)
  | _ => none

def isHighSurrogate (code : Nat) : Bool :=
  0xD800 ≤ code && code ≤ 0xDBFF

def isLowSurrogate (code : Nat) : Bool :=
  0xDC00 ≤ code && code ≤ 0xDFFF

def lowSurrogate? : List Char → Option (Nat × List Char)
  | '\\' :: 'u' :: rest =>
    match hexCode? rest with
    | some (code, rest) => if isLowSurrogate code then some (code, rest) else none
    | none => none
  | _ => none

def letterEscape? (c : Char) : Option Nat :=
  match c with
  | '"' => some 0x22
  | '\\' => some 0x5C
  | '/' => some 0x2F
  | 'b' => some 0x8
  | 'f' => some 0xC
  | 'n' => some 0xA
  | 'r' => some 0xD
  | 't' => some 0x9
  | _ => none

/-- The code point of an escape, whose backslash has been read; the string begins at
the opening quote. -/
def readEscape (opening : List Char) : List Char → Reading Nat
  | [] => .error (.malformed .unterminatedString opening.length)
  | 'u' :: rest =>
    match hexCode? rest with
    | none => .error (.malformed .invalidCodeEscape (rest.length + 1))
    | some (code, rest) =>
      if isHighSurrogate code then
        match lowSurrogate? rest with
        | some (low, rest) => .ok (0x10000 + (code - 0xD800) * 0x400 + (low - 0xDC00), rest)
        | none => .ok (code, rest)
      else .ok (code, rest)
  | c :: rest =>
    match letterEscape? c with
    | some code => .ok (code, rest)
    | none => .error (.malformed .invalidEscape (rest.length + 2))

def readString (opening : List Char) : Nat → List Nat → List Char → Reading JsonString
  | 0, _, _ => .error (.malformed .unterminatedString opening.length)
  | _ + 1, _, [] => .error (.malformed .unterminatedString opening.length)
  | fuel + 1, codes, c :: rest =>
    if c = '"' then .ok (JsonString.ofCodes codes.reverse, rest)
    else if c = '\\' then
      match readEscape opening rest with
      | .ok (code, rest) => readString opening fuel (code :: codes) rest
      | .error fault => .error fault
    else if c.toNat < 0x20 then .error (.malformed .invalidControl (rest.length + 1))
    else readString opening fuel (c.toNat :: codes) rest

/-! ### Numbers -/

structure Numeral where
  negative : Bool
  whole : List Char
  fraction : List Char
  exponent : List Char
  deriving DecidableEq, Repr

def takeDigits (cs : List Char) : List Char × List Char :=
  (cs.takeWhile WholeNumber.isAsciiDigit, cs.dropWhile WholeNumber.isAsciiDigit)

def takeFraction : List Char → List Char × List Char
  | '.' :: rest =>
    match takeDigits rest with
    | ([], _) => ([], '.' :: rest)
    | (digits, rest) => ('.' :: digits, rest)
  | cs => ([], cs)

def takeExponent : List Char → List Char × List Char
  | [] => ([], [])
  | c :: rest =>
    if c = 'e' ∨ c = 'E' then
      let (sign, digits) :=
        match rest with
        | '+' :: more => (['+'], more)
        | '-' :: more => (['-'], more)
        | more => ([], more)
      match takeDigits digits with
      | ([], _) => ([], c :: rest)
      | (digits, after) => (c :: sign ++ digits, after)
    else ([], c :: rest)

def takeDash : List Char → Bool × List Char
  | '-' :: rest => (true, rest)
  | cs => (false, cs)

def takeWhole : List Char → List Char × List Char
  | '0' :: rest => (['0'], rest)
  | cs => takeDigits cs

def takeNumeral (cs : List Char) : Option (Numeral × List Char) :=
  let (negative, body) := takeDash cs
  let (whole, rest) := takeWhole body
  if whole = [] then none
  else
    let (fraction, rest) := takeFraction rest
    let (exponent, rest) := takeExponent rest
    some (⟨negative, whole, fraction, exponent⟩, rest)

namespace Numeral

def spelling (numeral : Numeral) : List Char :=
  (if numeral.negative then ['-'] else []) ++ numeral.whole ++ numeral.fraction ++
    numeral.exponent

def isWhole (numeral : Numeral) : Bool :=
  numeral.fraction.isEmpty && numeral.exponent.isEmpty

def exponentValue (numeral : Numeral) : Int :=
  match numeral.exponent.drop 1 with
  | '-' :: digits => -(WholeNumber.valueOf digits : Int)
  | '+' :: digits => WholeNumber.valueOf digits
  | digits => WholeNumber.valueOf digits

def real (numeral : Numeral) : Binary64 :=
  let places := numeral.fraction.drop 1
  Binary64.ofDecimal numeral.negative (WholeNumber.valueOf (numeral.whole ++ places))
    (numeral.exponentValue - places.length)

def read (numbers : NumberReading) (numeral : Numeral) : Except Fault Json :=
  match numbers with
  | .spellings => .ok (.text (String.ofList numeral.spelling))
  | .values =>
    if !numeral.isWhole then .ok (.real numeral.real)
    else if WholeNumber.digitLimit < numeral.whole.length then
      .error (.tooManyDigits numeral.whole.length)
    else .ok (.int (WholeNumber.applySign numeral.negative (WholeNumber.valueOf numeral.whole)))

end Numeral

/-! ### Values -/

def words : List (List Char × Json) :=
  [("null".toList, .null), ("true".toList, .bool true), ("false".toList, .bool false),
    ("NaN".toList, .real .notANumber), ("Infinity".toList, .real (.infinite false)),
    ("-Infinity".toList, .real (.infinite true))]

def readWord? (cs : List Char) : Option (Json × List Char) :=
  words.findSome? fun (word, value) =>
    if word.isPrefixOf cs then some (value, cs.drop word.length) else none

def readScalar (numbers : NumberReading) (cs : List Char) : Reading Json :=
  match readWord? cs with
  | some reading => .ok reading
  | none =>
    match takeNumeral cs with
    | none => .error (.malformed .expectingValue cs.length)
    | some (numeral, rest) =>
      match numeral.read numbers with
      | .ok value => .ok (value, rest)
      | .error fault => .error fault

mutual

/-- The value at the head of the text, with a bound on the steps of the reading and on
the nesting of containers. -/
def readValue (numbers : NumberReading) : Nat → Nat → List Char → Reading Json
  | 0, _, cs => .error (.malformed .expectingValue cs.length)
  | fuel + 1, depth, cs =>
    match cs with
    | '"' :: rest =>
      match readString cs (rest.length + 1) [] rest with
      | .ok (s, rest) => .ok (.string s, rest)
      | .error fault => .error fault
    | '[' :: rest =>
      match depth with
      | 0 => .error (.tooDeep .array)
      | depth + 1 =>
        match skipSpace rest with
        | ']' :: rest => .ok (.list [], rest)
        | rest => readItems numbers fuel depth [] rest
    | '{' :: rest =>
      match depth with
      | 0 => .error (.tooDeep .object)
      | depth + 1 =>
        match skipSpace rest with
        | '}' :: rest => .ok (.object [], rest)
        | rest => readMembers numbers fuel depth [] rest
    | cs => readScalar numbers cs

def readItems (numbers : NumberReading) :
    Nat → Nat → List Json → List Char → Reading Json
  | 0, _, _, cs => .error (.malformed .expectingValue cs.length)
  | fuel + 1, depth, items, cs =>
    match readValue numbers fuel depth cs with
    | .error fault => .error fault
    | .ok (item, rest) =>
      match skipSpace rest with
      | ']' :: rest => .ok (.list (item :: items).reverse, rest)
      | ',' :: rest => readItems numbers fuel depth (item :: items) (skipSpace rest)
      | rest => .error (.malformed .expectingComma rest.length)

def readMembers (numbers : NumberReading) :
    Nat → Nat → List (JsonString × Json) → List Char → Reading Json
  | 0, _, _, cs => .error (.malformed .expectingName cs.length)
  | fuel + 1, depth, members, cs =>
    match cs with
    | '"' :: rest =>
      match readString cs (rest.length + 1) [] rest with
      | .error fault => .error fault
      | .ok (name, rest) =>
        match skipSpace rest with
        | ':' :: rest =>
          match readValue numbers fuel depth (skipSpace rest) with
          | .error fault => .error fault
          | .ok (value, rest) =>
            let members := (name, value) :: members
            match skipSpace rest with
            | '}' :: rest =>
              .ok (.object (members.reverse.foldl (fun ms m => put ms m.1 m.2) []), rest)
            | ',' :: rest => readMembers numbers fuel depth members (skipSpace rest)
            | rest => .error (.malformed .expectingComma rest.length)
        | rest => .error (.malformed .expectingColon rest.length)
    | cs => .error (.malformed .expectingName cs.length)

end

structure Place where
  line : Nat
  column : Nat
  offset : Nat
  deriving DecidableEq, Repr

def Place.behind (read : List Char) : Place where
  line := read.count '\n' + 1
  column := (read.reverse.takeWhile (· != '\n')).length + 1
  offset := read.length

inductive ReadError where
  | malformed (problem : Problem) (place : Place)
  | tooManyDigits (count : Nat)
  | tooDeep (container : Container)
  deriving DecidableEq, Repr

def Fault.locate (cs : List Char) : Fault → ReadError
  | .malformed problem remaining =>
    .malformed problem (Place.behind (cs.take (cs.length - remaining)))
  | .tooManyDigits count => .tooManyDigits count
  | .tooDeep container => .tooDeep container

/-- How deep containers may be nested where no other bound is given. -/
def nestingLimit : Nat := 970

def readWith (numbers : NumberReading) (depth : Nat) (cs : List Char) : Except ReadError Json :=
  match cs with
  | '\uFEFF' :: _ => .error (.malformed .byteOrderMark ⟨1, 1, 0⟩)
  | cs =>
    match readValue numbers (2 * cs.length + 2) depth (skipSpace cs) with
    | .error fault => .error (fault.locate cs)
    | .ok (value, rest) =>
      match skipSpace rest with
      | [] => .ok value
      | rest => .error ((Fault.malformed .extraData rest.length).locate cs)

def read (cs : List Char) : Except ReadError Json :=
  readWith .values nestingLimit cs

/-! ### Reports -/

def Problem.text : Problem → String
  | .expectingValue => "Expecting value"
  | .expectingComma => "Expecting ',' delimiter"
  | .expectingColon => "Expecting ':' delimiter"
  | .expectingName => "Expecting property name enclosed in double quotes"
  | .unterminatedString => "Unterminated string starting at"
  | .invalidControl => "Invalid control character at"
  | .invalidEscape => "Invalid \\escape"
  | .invalidCodeEscape => "Invalid \\uXXXX escape"
  | .extraData => "Extra data"
  | .byteOrderMark => "Unexpected UTF-8 BOM (decode using utf-8-sig)"

def Container.text : Container → String
  | .array => "array"
  | .object => "object"

def ReadError.message : ReadError → String
  | .malformed problem place =>
    problem.text ++ ": line " ++ toString place.line ++ " column " ++ toString place.column ++
      " (char " ++ toString place.offset ++ ")"
  | .tooManyDigits count => WholeNumber.tooManyDigitsMessage count
  | .tooDeep container =>
    "maximum recursion depth exceeded while decoding a JSON " ++ container.text ++
      " from a unicode string"

end AccountSessions.Json
