/-!
# Binary64 numbers

A number with 53 significant bits is kept as a sign, a mantissa and a power of two, so
every operation is exact arithmetic followed by one rounding to the nearest number, a
tie going to the even mantissa.  Decimal text, quotients of whole numbers and products
all round through the same function.
-/

namespace AccountSessions

/-- A binary64 number; a finite one is `± mantissa * 2 ^ exponent` with a mantissa below
`2 ^ 53` and an exponent of at least -1074, the mantissa being full unless the exponent
is the least. -/
inductive Binary64 where
  | finite (negative : Bool) (mantissa : Nat) (exponent : Int)
  | infinite (negative : Bool)
  | notANumber
  deriving DecidableEq, Repr

namespace Binary64

/-- The whole number nearest to a quotient, the even one of two. -/
def nearest (num den : Nat) : Nat :=
  let quotient := num / den
  let remainder := num % den
  if 2 * remainder < den then quotient
  else if den < 2 * remainder then quotient + 1
  else quotient + quotient % 2

/-- A quotient of positive numbers times a power of two, as a quotient. -/
def scale (num den : Nat) (exponent : Int) : Nat × Nat :=
  if exponent < 0 then (num, den <<< exponent.natAbs) else (num <<< exponent.natAbs, den)

/-- The largest power of two, as its exponent, that a positive quotient reaches. -/
def binaryOrder (num den : Nat) : Int :=
  let guess : Int := (Nat.log2 num : Int) - Nat.log2 den
  let (n, d) := scale num den (-guess)
  if n < d then guess - 1 else guess

def ofRatio (negative : Bool) (num den : Nat) : Binary64 :=
  if num = 0 then .finite negative 0 (-1074)
  else
    let exponent := max (binaryOrder num den - 52) (-1074)
    let (n, d) := scale num den (-exponent)
    let mantissa := nearest n d
    let (mantissa, exponent) :=
      if mantissa = 1 <<< 53 then (1 <<< 52, exponent + 1) else (mantissa, exponent)
    if 971 < exponent then .infinite negative else .finite negative mantissa exponent

def ofDecimal (negative : Bool) (digits : Nat) (exponent : Int) : Binary64 :=
  if digits = 0 then .finite negative 0 (-1074)
  else if 400 < exponent then .infinite negative
  else if exponent < -(401 + Nat.log2 digits : Int) then .finite negative 0 (-1074)
  else if exponent < 0 then ofRatio negative digits (Nat.pow 10 exponent.natAbs)
  else ofRatio negative (digits * Nat.pow 10 exponent.natAbs) 1

def ratio (mantissa : Nat) (exponent : Int) : Nat × Nat :=
  scale mantissa 1 exponent

def wholePart (mantissa : Nat) (exponent : Int) : Nat :=
  let (n, d) := ratio mantissa exponent
  n / d

def truncate? : Binary64 → Option Int
  | .finite negative mantissa exponent =>
    let whole := wholePart mantissa exponent
    some (if negative then -(whole : Int) else whole)
  | _ => none

def isWhole : Binary64 → Bool
  | .finite _ mantissa exponent =>
    let (n, d) := ratio mantissa exponent
    n % d == 0
  | _ => false

def isPositive : Binary64 → Bool
  | .finite negative mantissa _ => !negative && mantissa != 0
  | .infinite negative => !negative
  | .notANumber => false

/-- The quotient of a whole number and a positive one, rounded and without its fraction. -/
def truncatedQuotient (num : Int) (den : Nat) : Int :=
  match truncate? (ofRatio (num < 0) num.natAbs den) with
  | some whole => whole
  | none => 0

end Binary64

end AccountSessions
