import AccountSessions.Number.WholeNumber
import AccountSessions.Time.Moment

/-!
# Civil time

A date and a time of day.  Every moment has one in universal time, and a date and a time
of day that are in order name a moment once their distance from universal time is known.
-/

namespace AccountSessions

structure CivilTime where
  year : Nat
  month : Nat
  day : Nat
  hour : Nat
  minute : Nat
  second : Nat
  microsecond : Nat
  deriving DecidableEq, Repr

namespace CivilTime

def ordinalMicros (time : CivilTime) : Nat :=
  (((Calendar.Date.ordinal ⟨time.year, time.month, time.day⟩ * 24 + time.hour) * 60 +
    time.minute) * 60 + time.second) * 1000000 + time.microsecond

def ofOrdinalMicros (micros : Nat) : CivilTime :=
  let date := Calendar.Date.ofOrdinal (micros / 86400000000)
  { year := date.year
    month := date.month
    day := date.day
    hour := micros / 3600000000 % 24
    minute := micros / 60000000 % 60
    second := micros / 1000000 % 60
    microsecond := micros % 1000000 }

def ofMoment (moment : Moment) : CivilTime :=
  ofOrdinalMicros (moment.micros - earliestMicros).toNat

inductive Fault where
  | wordOverflow
  | longOverflow
  | wordUnderflow
  | year (value : Int)
  | month
  | day
  | hour
  | minute
  | second
  | microsecond
  deriving DecidableEq, Repr

def wordFault? (part : Int) : Option Fault :=
  if !WholeNumber.fitsWord part then some .longOverflow
  else if 0x80000000 ≤ part then some .wordOverflow
  else if part < -0x80000000 then some .wordUnderflow
  else none

def ofWords (year month day hour minute second microsecond : Int) : Except Fault CivilTime :=
  if year < 1 ∨ 9999 < year then .error (.year year)
  else if month < 1 ∨ 12 < month then .error .month
  else if day < 1 ∨ (Calendar.daysInMonth year.toNat month.toNat : Int) < day then .error .day
  else if hour < 0 ∨ 23 < hour then .error .hour
  else if minute < 0 ∨ 59 < minute then .error .minute
  else if second < 0 ∨ 59 < second then .error .second
  else if microsecond < 0 ∨ 999999 < microsecond then .error .microsecond
  else .ok ⟨year.toNat, month.toNat, day.toNat, hour.toNat, minute.toNat, second.toNat,
    microsecond.toNat⟩

def ofParts (year month day hour minute second microsecond : Int) : Except Fault CivilTime :=
  match [year, month, day, hour, minute, second, microsecond].findSome? wordFault? with
  | some fault => .error fault
  | none => ofWords year month day hour minute second microsecond

def Fault.message : Fault → String
  | .wordOverflow => "signed integer is greater than maximum"
  | .wordUnderflow => "signed integer is less than minimum"
  | .longOverflow => "Python int too large to convert to C long"
  | .year value => "year " ++ toString value ++ " is out of range"
  | .month => "month must be in 1..12"
  | .day => "day is out of range for month"
  | .hour => "hour must be in 0..23"
  | .minute => "minute must be in 0..59"
  | .second => "second must be in 0..59"
  | .microsecond => "microsecond must be in 0..999999"

/-- The moment that a civil time names at a distance from universal time, unless it lies
outside the calendar. -/
def toMoment? (time : CivilTime) (offset : Duration) : Option Moment :=
  Moment.ofMicros? (earliestMicros + time.ordinalMicros - offset.micros)

def isOffset (offset : Duration) : Bool :=
  -(Duration.microsPerDay : Int) < offset.micros && offset.micros < Duration.microsPerDay

def offsetMessage (offset : Duration) : String :=
  "offset must be a timedelta strictly between -timedelta(hours=24) and timedelta(hours=24), not " ++
    offset.display ++ "."

end CivilTime

end AccountSessions
