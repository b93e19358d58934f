import AccountSessions.Time.MomentText

/-!
# Times of clocks

A time that a clock shows, and how far the clock is from universal time.  A clock that
does not say so shows universal time.  Such a time is stored as the text of its moment,
which it has unless that lies outside the calendar.
-/

namespace AccountSessions

structure ZonedTime where
  civil : CivilTime
  offset? : Option Duration
  deriving DecidableEq, Repr

namespace ZonedTime

def offset (time : ZonedTime) : Duration :=
  time.offset?.getD ⟨0⟩

def moment? (time : ZonedTime) : Option Moment :=
  time.civil.toMoment? time.offset

def stored? (time : ZonedTime) : Option String :=
  time.moment?.map MomentText.stored

/-- What a clock of universal time shows at a moment. -/
def universal (moment : Moment) : ZonedTime where
  civil := CivilTime.ofMoment moment
  offset? := some ⟨0⟩

end ZonedTime

end AccountSessions
