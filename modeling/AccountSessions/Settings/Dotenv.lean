import AccountSessions.Text.Blank

/-!
# Environment files

A file of bindings `NAME=value`, one a line.  A value may stand in quotes, within which
lines may break and a backslash escapes; otherwise it ends at the line or at a blank and
a number sign.  The word `export` may precede a name, and a name alone is left unset.
`${NAME}` and `${NAME:-default}` stand for earlier bindings and for the environment.
A line that is no binding is skipped.
-/

namespace AccountSessions.Settings.Dotenv

def isInnerBlank (c : Char) : Bool :=
  Text.isWordBreak c && c != '\n' && c != '\r'

def isLineEnd (c : Char) : Bool :=
  c == '\n' || c == '\r'

def unifyLines : List Char → List Char
  | [] => []
  | '\r' :: '\n' :: rest => '\n' :: unifyLines rest
  | '\r' :: rest => '\n' :: unifyLines rest
  | c :: rest => c :: unifyLines rest

def skipExport (cs : List Char) : List Char :=
  let word := "export".toList
  if word.isPrefixOf cs then
    match cs.drop word.length with
    | c :: rest => if isInnerBlank c then rest.dropWhile isInnerBlank else cs
    | [] => cs
  else cs

/-- A step of reading: what was read and the rest, or where the reading failed. -/
abbrev Step (α : Type) := Except (List Char) (α × List Char)

def readName (cs : List Char) : Step (Option String) :=
  match cs with
  | '#' :: _ => .ok (none, cs)
  | '\'' :: rest =>
    match rest.takeWhile (· != '\''), rest.dropWhile (· != '\'') with
    | c :: name, _ :: behind => .ok (some (String.ofList (c :: name)), behind)
    | _, _ => .error cs
  | cs =>
    let inName := fun c => c != '=' && c != '#' && !Text.isWordBreak c
    match cs.takeWhile inName with
    | [] => .error cs
    | name => .ok (some (String.ofList name), cs.dropWhile inName)

/-- The text up to the closing quote and the rest.  An escaped quote is passed over,
but the last of them closes the value if no other quote does. -/
def readQuoted (quote : Char) (read : List Char) (lastEscaped : Option (List Char × List Char)) :
    List Char → Option (List Char × List Char)
  | [] => lastEscaped
  | [c] => if c = quote then some (read.reverse, []) else lastEscaped
  | c :: d :: rest =>
    if c = quote then some (read.reverse, d :: rest)
    else if c = '\\' ∧ d = quote then
      readQuoted quote (quote :: '\\' :: read) (some (('\\' :: read).reverse, rest)) rest
    else readQuoted quote (c :: read) lastEscaped (d :: rest)

def doubleEscape? (c : Char) : Option Char :=
  match c with
  | '\\' => some '\\'
  | '\'' => some '\''
  | '"' => some '"'
  | 'a' => some '\x07'
  | 'b' => some '\x08'
  | 'f' => some '\x0c'
  | 'n' => some '\n'
  | 'r' => some '\r'
  | 't' => some '\t'
  | 'v' => some '\x0b'
  | _ => none

def singleEscape? (c : Char) : Option Char :=
  if c = '\\' ∨ c = '\'' then some c else none

def unescape (escape? : Char → Option Char) : List Char → List Char
  | [] => []
  | '\\' :: c :: rest =>
    match escape? c with
    | some plain => plain :: unescape escape? rest
    | none => '\\' :: unescape escape? (c :: rest)
  | c :: rest => c :: unescape escape? rest

/-- The text before the first blanks that a number sign follows. -/
def beforeComment : List Char → List Char
  | [] => []
  | c :: rest =>
    if Text.isWordBreak c && (rest.dropWhile Text.isWordBreak).head? == some '#' then []
    else c :: beforeComment rest

def readValue (cs : List Char) : Step String :=
  match cs with
  | '\'' :: rest =>
    match readQuoted '\'' [] none rest with
    | some (value, behind) => .ok (String.ofList (unescape singleEscape? value), behind)
    | none => .error cs
  | '"' :: rest =>
    match readQuoted '"' [] none rest with
    | some (value, behind) => .ok (String.ofList (unescape doubleEscape? value), behind)
    | none => .error cs
  | cs =>
    let line := cs.takeWhile fun c => !isLineEnd c
    let value := ((beforeComment line).reverse.dropWhile Text.isWordBreak).reverse
    .ok (String.ofList value, cs.dropWhile fun c => !isLineEnd c)

def readLineEnd (cs : List Char) : Step Unit :=
  let cs :=
    match cs.dropWhile isInnerBlank with
    | '#' :: rest => rest.dropWhile fun c => !isLineEnd c
    | _ => cs
  match cs.dropWhile isInnerBlank with
  | [] => .ok ((), [])
  | c :: rest => if isLineEnd c then .ok ((), rest) else .error cs

abbrev Binding := String × Option String

def readBinding (cs : List Char) : Except (List Char) (Option Binding × List Char) := do
  let (name, cs) ← readName (skipExport cs)
  let cs := cs.dropWhile isInnerBlank
  let (value, cs) ←
    match cs with
    | '=' :: rest => do
      let (value, cs) ← readValue (rest.dropWhile isInnerBlank)
      pure (some value, cs)
    | cs => pure (none, cs)
  let (_, cs) ← readLineEnd cs
  return (name.map (·, value), cs)

def skipLine (cs : List Char) : List Char :=
  (cs.dropWhile fun c => !isLineEnd c).drop 1

def readBindings : Nat → List Char → List Binding
  | 0, _ => []
  | fuel + 1, cs =>
    match cs.dropWhile Text.isWordBreak with
    | [] => []
    | cs =>
      match readBinding cs with
      | .ok (some binding, rest) => binding :: readBindings fuel rest
      | .ok (none, rest) => readBindings fuel rest
      | .error rest => readBindings fuel (skipLine rest)

/-! ### References -/

/-- A reference at the head of the text: the name, the default and the rest. -/
def reference? (cs : List Char) : Option (String × String × List Char) :=
  match cs with
  | '$' :: '\x7b' :: rest =>
    let inName := fun c => c != '\x7d' && c != ':'
    let name := String.ofList (rest.takeWhile inName)
    match rest.dropWhile inName with
    | '\x7d' :: behind => some (name, "", behind)
    | ':' :: '-' :: rest =>
      match rest.dropWhile (· != '\x7d') with
      | _ :: behind => some (name, String.ofList (rest.takeWhile (· != '\x7d')), behind)
      | [] => none
    | _ => none
  | _ => none

def expand (meaning : String → Option (Option String)) : Nat → List Char → List Char
  | 0, cs => cs
  | _ + 1, [] => []
  | fuel + 1, c :: rest =>
    match reference? (c :: rest) with
    | some (name, default, behind) =>
      ((meaning name).getD (some default)).getD "" |>.toList |> (· ++ expand meaning fuel behind)
    | none => c :: expand meaning fuel rest

def meaningOf (environment : List (String × String)) (bound : List Binding) (name : String) :
    Option (Option String) :=
  match bound.find? (·.1 == name) with
  | some binding => some binding.2
  | none => (environment.find? (·.1 == name)).map fun entry => some entry.2

def resolve (environment : List (String × String)) (bindings : List Binding) : List Binding :=
  bindings.foldl
    (fun bound (name, value) =>
      let value := value.map fun text =>
        String.ofList (expand (meaningOf environment bound) (text.length + 1) text.toList)
      (name, value) :: bound)
    []

def read (environment : List (String × String)) (text : String) : List Binding :=
  let cs := unifyLines text.toList
  (resolve environment (readBindings (cs.length + 1) cs)).reverse

end AccountSessions.Settings.Dotenv
