/-!
# The calendar

Days are counted from the first day of year 1.  A year is found by an estimate from the
mean length of a year, which is off by at most one, and a month by the number of days
before it.
-/

namespace AccountSessions.Calendar

def isLeap (year : Nat) : Bool :=
  year % 4 == 0 && (year % 100 != 0 || year % 400 == 0)

def daysInMonth (year month : Nat) : Nat :=
  if month = 2 then (if isLeap year then 29 else 28)
  else if month = 4 ∨ month = 6 ∨ month = 9 ∨ month = 11 then 30
  else 31

def daysBeforeYear (year : Nat) : Nat :=
  let past := year - 1
  past * 365 + past / 4 - past / 100 + past / 400

def daysBeforeMonth (year month : Nat) : Nat :=
  (List.range (month - 1)).foldl (fun days earlier => days + daysInMonth year (earlier + 1)) 0

structure Date where
  year : Nat
  month : Nat
  day : Nat
  deriving DecidableEq, Repr

def Date.ordinal (date : Date) : Nat :=
  daysBeforeYear date.year + daysBeforeMonth date.year date.month + (date.day - 1)

def yearOf (ordinal : Nat) : Nat :=
  let estimate := ordinal * 400 / 146097 + 1
  if daysBeforeYear (estimate + 1) ≤ ordinal then estimate + 1
  else if ordinal < daysBeforeYear estimate then estimate - 1
  else estimate

/-- The month that holds a day of the year, looked for from the given month on. -/
def monthFrom (year dayOfYear : Nat) : Nat → Nat → Nat
  | 0, month => month
  | more + 1, month =>
    if dayOfYear < daysBeforeMonth year (month + 1) then month
    else monthFrom year dayOfYear more (month + 1)

def Date.ofOrdinal (ordinal : Nat) : Date :=
  let year := yearOf ordinal
  let dayOfYear := ordinal - daysBeforeYear year
  let month := monthFrom year dayOfYear 11 1
  ⟨year, month, dayOfYear - daysBeforeMonth year month + 1⟩

end AccountSessions.Calendar
