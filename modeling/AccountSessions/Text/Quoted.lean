import AccountSessions.Text.Printable

/-!
# Quoted text

A text in quotes, as reports and representations show it.  Single quotes stand around
it unless it holds single quotes and no double quote.  The quote, the backslash, the
line controls and every character that cannot be printed are escaped.
-/

namespace AccountSessions.Text.Quoted

def hex (width code : Nat) : List Char :=
  let digits := Nat.toDigits 16 code
  List.replicate (width - digits.length) '0' ++ digits

/-- The escape of a code point by its number, in two, four or eight digits. -/
def numericEscape (code : Nat) : List Char :=
  if code < 0x100 then '\\' :: 'x' :: hex 2 code
  else if code < 0x10000 then '\\' :: 'u' :: hex 4 code
  else '\\' :: 'U' :: hex 8 code

def isSurrogate (code : Nat) : Bool :=
  0xD800 ≤ code && code ≤ 0xDFFF

/-- How a code point stands within the quotes; a lone surrogate is never printable. -/
def escape (quote : Char) (code : Nat) : List Char :=
  if code = quote.toNat ∨ code = '\\'.toNat then ['\\', Char.ofNat code]
  else if code = '\t'.toNat then ['\\', 't']
  else if code = '\n'.toNat then ['\\', 'n']
  else if code = '\r'.toNat then ['\\', 'r']
  else if isSurrogate code || !isPrintable (Char.ofNat code) then numericEscape code
  else [Char.ofNat code]

/-- The quotes that need the fewest escapes, single ones if in doubt. -/
def quoteFor (codes : List Nat) : Char :=
  if codes.contains '\''.toNat && !codes.contains '"'.toNat then '"' else '\''

def quoted (codes : List Nat) : List Char :=
  let quote := quoteFor codes
  quote :: codes.flatMap (escape quote) ++ [quote]

def quote (s : String) : String :=
  String.ofList (quoted (s.toList.map Char.toNat))

end AccountSessions.Text.Quoted
