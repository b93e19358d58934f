/-!
# Durations

A duration is a number of microseconds of either sign.  Its parts are whole days, which
take the sign, and seconds and microseconds that are never negative.
-/

namespace AccountSessions

structure Duration where
  micros : Int
  deriving DecidableEq, Repr

namespace Duration

def microsPerSecond : Nat := 1000000

def microsPerDay : Nat := 86400000000

def ofSeconds (seconds : Int) : Duration :=
  ⟨seconds * microsPerSecond⟩

def days (span : Duration) : Int :=
  span.micros.fdiv microsPerDay

def secondsOfDay (span : Duration) : Int :=
  (span.micros.fmod microsPerDay).fdiv microsPerSecond

def microsOfSecond (span : Duration) : Int :=
  span.micros.fmod microsPerSecond

def display (span : Duration) : String :=
  let part := fun (name : String) (value : Int) =>
    if value = 0 then [] else [name ++ "=" ++ toString value]
  let parts := part "days" span.days ++ part "seconds" span.secondsOfDay ++
    part "microseconds" span.microsOfSecond
  "datetime.timedelta(" ++ (if parts.isEmpty then "0" else String.intercalate ", " parts) ++ ")"

/-- The largest number of days of a duration, in either direction. -/
def dayLimit : Nat := 999999999

def wordLimit : Nat := 2147483647

inductive Fault where
  | wordOverflow
  | tooManyDays (days : Int)
  deriving DecidableEq, Repr

def ofSecondsChecked (seconds : Int) : Except Fault Duration :=
  let span := ofSeconds seconds
  let days := span.days
  if (wordLimit : Int) < days ∨ days < -(wordLimit : Int) - 1 then .error .wordOverflow
  else if (dayLimit : Int) < days ∨ days < -(dayLimit : Int) then .error (.tooManyDays days)
  else .ok span

def Fault.message : Fault → String
  | .wordOverflow => "Python int too large to convert to C int"
  | .tooManyDays days => "days=" ++ toString days ++ "; must have magnitude <= " ++ toString dayLimit

end Duration

end AccountSessions
