import AccountSessions.Number.Binary64

/-!
# The shortest decimal of a binary64 number

A finite number is written with the fewest significant digits that read back to it.
On each decimal grid, from one digit upwards, the two neighbours of the number are
tried; the first grid on which one of them rounds to the number gives the digits.  The
text is positional while the point stands from four zeros after it to sixteen digits
before it, and scientific otherwise.
-/

namespace AccountSessions.Binary64

structure Decimal where
  digits : Nat
  exponent : Int
  deriving DecidableEq, Repr

def scaleByTen (num den : Nat) (exponent : Int) : Nat × Nat :=
  if exponent < 0 then (num, den * Nat.pow 10 exponent.natAbs)
  else (num * Nat.pow 10 exponent.natAbs, den)

def reachesPowerOfTen (num den : Nat) (exponent : Int) : Bool :=
  let (n, d) := scaleByTen num den (-exponent)
  decide (d ≤ n)

def decimalOrder (num den : Nat) : Int :=
  let guess : Int := (binaryOrder num den * 30103).fdiv 100000
  if reachesPowerOfTen num den (guess + 1) then guess + 1
  else if reachesPowerOfTen num den guess then guess
  else guess - 1

/-- The reals that round to a number, in quarters of its unit in the last place: the two
ends, and whether the ends belong. -/
structure Catchment where
  low : Nat
  middle : Nat
  high : Nat
  closed : Bool

/-- The gap below a power of two is half as wide as the one above it. -/
def catchment (mantissa : Nat) (exponent : Int) : Catchment where
  low := if mantissa = 1 <<< 52 ∧ -1074 < exponent then 4 * mantissa - 1 else 4 * mantissa - 2
  middle := 4 * mantissa
  high := 4 * mantissa + 2
  closed := mantissa % 2 = 0

/-- The position `candidate`, in quarters times the denominator, lies in the catchment. -/
def Catchment.holds (area : Catchment) (candidate den : Nat) : Bool :=
  if area.closed then area.low * den ≤ candidate && candidate ≤ area.high * den
  else area.low * den < candidate && candidate < area.high * den

/-- The digits, on the grid of a power of ten, of a neighbour that reads back to the
number. -/
def onGrid (area : Catchment) (exponent grid : Int) : Option Nat :=
  -- one step of the grid is `n / d` quarters of the last place
  let (n, d) := scale 1 1 (2 - exponent)
  let (n, d) := scaleByTen n d grid
  let below := area.middle * d / n
  let above := below + 1
  let reaches := fun digits => area.holds (digits * n) d
  match reaches below, reaches above with
  | true, true =>
    let down := area.middle * d - below * n
    let up := above * n - area.middle * d
    if down < up then some below
    else if up < down then some above
    else some (below + below % 2)
  | true, false => some below
  | false, true => some above
  | false, false => none

def shortest (mantissa : Nat) (exponent : Int) : Decimal :=
  let area := catchment mantissa exponent
  let (n, d) := ratio mantissa exponent
  let order := decimalOrder n d
  let found := (List.range 17).findSome? fun (places : Nat) =>
    (onGrid area exponent (order - places)).map (Decimal.mk · (order - places))
  found.getD ⟨0, 0⟩

def Decimal.significant (decimal : Decimal) : List Char :=
  ((Nat.toDigits 10 decimal.digits).reverse.dropWhile (· == '0')).reverse

def Decimal.point (decimal : Decimal) : Int :=
  (Nat.toDigits 10 decimal.digits).length + decimal.exponent

def exponentPart (exponent : Int) : List Char :=
  let digits := Nat.toDigits 10 exponent.natAbs
  'e' :: (if exponent < 0 then '-' else '+') ::
    (List.replicate (2 - digits.length) '0' ++ digits)

/-- The decimal in positional notation from four zeros after the point up to sixteen
places before it, and in scientific notation otherwise. -/
def Decimal.layout (decimal : Decimal) : List Char :=
  let digits := decimal.significant
  let point := decimal.point
  if -4 < point ∧ point ≤ 16 then
    if point ≤ 0 then '0' :: '.' :: (List.replicate point.natAbs '0' ++ digits)
    else
      let whole := point.natAbs
      if digits.length ≤ whole then
        digits ++ List.replicate (whole - digits.length) '0' ++ ['.', '0']
      else digits.take whole ++ '.' :: digits.drop whole
  else
    match digits with
    | [] => []
    | [digit] => digit :: exponentPart (point - 1)
    | digit :: more => digit :: '.' :: more ++ exponentPart (point - 1)

structure Names where
  infinity : String
  notANumber : String

def text (names : Names) : Binary64 → String
  | .notANumber => names.notANumber
  | .infinite negative => (if negative then "-" else "") ++ names.infinity
  | .finite negative mantissa exponent =>
    let sign := if negative then "-" else ""
    if mantissa = 0 then sign ++ "0.0"
    else sign ++ String.ofList (shortest mantissa exponent).layout

end AccountSessions.Binary64
