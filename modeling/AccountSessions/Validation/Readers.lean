import AccountSessions.Json.Reader
import AccountSessions.Text.Blank
import AccountSessions.Validation

/-!
# Readers of submitted values

A value arrives as a text or as a value of any kind.  Switches are read from the usual
words, whole numbers from digits with single underscores and a fraction of zeros, and
other numbers from decimal and scientific notation.
-/

namespace AccountSessions.Validation

def readText : Json → Except Flaw String
  | .string (.plain text) => .ok text
  | .string (.broken _) => .error .notCharacters
  | _ => .error .notText

/-! ### Switches -/

def onWords : List String := ["1", "t", "y", "on", "yes", "true"]

def offWords : List String := ["0", "f", "n", "no", "off", "false"]

def readSwitchWord (text : String) : Except Flaw Bool :=
  let word := text.toLower
  if onWords.contains word then .ok true
  else if offWords.contains word then .ok false
  else .error .unreadableBool

def readSwitch : Json → Except Flaw Bool
  | .bool value => .ok value
  | .string (.plain text) => readSwitchWord text
  | .string (.broken _) => .error .notCharacters
  | .int value =>
    if value = 0 then .ok false
    else if value = 1 then .ok true
    else if WholeNumber.fitsWord value then .error .unreadableBool
    else .error .notABool
  | .real value =>
    match value.truncate? with
    | some whole =>
      if !value.isWhole || !WholeNumber.fitsWord whole then .error .notABool
      else if whole = 0 then .ok false
      else if whole = 1 then .ok true
      else .error .unreadableBool
    | none => .error .notABool
  | _ => .error .notABool

/-! ### Whole numbers -/

def unmarked? (run : List Char) : Option (List Char) :=
  if WholeNumber.underscoresPart run then some (run.filter WholeNumber.isAsciiDigit) else none

def isZeroFraction : List Char → Bool
  | [] => true
  | '.' :: zeros => !zeros.isEmpty && zeros.all (· == '0')
  | _ => false

def readWholeText (text : String) : Except Flaw Int :=
  let cs := Text.trimEnds Text.isBlank text.toList
  let (negative, body) :=
    match cs with
    | '-' :: rest => (true, rest)
    | '+' :: rest => (false, rest)
    | cs => (false, cs)
  let isPart := fun c => WholeNumber.isAsciiDigit c || c == '_'
  match unmarked? (body.takeWhile isPart) with
  | none => .error .unreadableWhole
  | some digits =>
    if !isZeroFraction (body.dropWhile isPart) then .error .unreadableWhole
    else if WholeNumber.digitLimit < digits.length then .error .oversizedWhole
    else .ok (WholeNumber.applySign negative (WholeNumber.valueOf digits))

/-- A whole number from any value; a decimal must be whole and fit 64 bits. -/
def readWhole : Json → Except Flaw Int
  | .int value => .ok value
  | .bool value => .ok (if value then 1 else 0)
  | .string (.plain text) => readWholeText text
  | .string (.broken _) => .error .notCharacters
  | .real value =>
    match value.truncate? with
    | none => .error .notFinite
    | some whole =>
      if !value.isWhole then .error .fractional
      else if WholeNumber.fitsWord whole then .ok whole
      else .error .oversizedWhole
  | _ => .error .notWhole

/-! ### Other numbers -/

def readNumberWord? (negative : Bool) (word : String) : Option Binary64 :=
  if word = "inf" ∨ word = "infinity" then some (.infinite negative)
  else if word = "nan" then some .notANumber
  else none

def readDecimal? (negative : Bool) (cs : List Char) : Option Binary64 :=
  let (whole, rest) := Json.takeDigits cs
  let (places, rest) :=
    match rest with
    | '.' :: rest => Json.takeDigits rest
    | rest => ([], rest)
  let (exponent, rest) := Json.takeExponent rest
  if (whole.isEmpty && places.isEmpty) || !rest.isEmpty then none
  else some (Json.Numeral.real ⟨negative, whole, '.' :: places, exponent⟩)

/-- The text without its underscores, which may stand neither at an end nor side by
side. -/
def withoutMarks? (cs : List Char) : Option (List Char) :=
  if !cs.contains '_' then some cs
  else if WholeNumber.underscoresPart cs then some (cs.filter (· != '_'))
  else none

def readNumberText (text : String) : Except Flaw Binary64 :=
  let found := do
    let cs ← withoutMarks? (Text.trimEnds Text.isBlank text.toList)
    let (negative, body) := WholeNumber.takeSign cs
    (readNumberWord? negative (String.ofList body).toLower).or (readDecimal? negative body)
  match found with
  | some value => .ok value
  | none => .error .unreadableNumber

def readNumber : Json → Except Flaw Binary64
  | .real value => .ok value
  | .int value =>
    match Binary64.ofRatio (value < 0) value.natAbs 1 with
    | .finite negative mantissa exponent => .ok (.finite negative mantissa exponent)
    | _ => .error .notANumber
  | .bool value => .ok (Binary64.ofRatio false (if value then 1 else 0) 1)
  | .string (.plain text) => readNumberText text
  | .string (.broken _) => .error .notCharacters
  | _ => .error .notANumber

/-! ### Bounds -/

def within (above atLeast atMost : Option Int) (value : Except Flaw Int) : Except Flaw Int := do
  let value ← value
  if let some bound := above then
    if value ≤ bound then throw (.notAbove bound)
  if let some bound := atMost then
    if bound < value then throw (.above bound)
  if let some bound := atLeast then
    if value < bound then throw (.below bound)
  return value

end AccountSessions.Validation
