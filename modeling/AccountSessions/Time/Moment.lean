import AccountSessions.Time.Calendar
import AccountSessions.Time.Duration

/-!
# Moments

A moment is a count of microseconds from the beginning of 1970, in universal time,
within the years 1 to 9999.  Adding a duration fails where it would leave these years.
-/

namespace AccountSessions

/-- The first moment of year 1. -/
def earliestMicros : Int := -62135596800000000

/-- The last moment of year 9999. -/
def latestMicros : Int := 253402300799999999

structure Moment where
  micros : Int
  inCalendar : earliestMicros ≤ micros ∧ micros ≤ latestMicros := by decide
  deriving DecidableEq

namespace Moment

instance : Repr Moment where
  reprPrec moment _ := repr moment.micros

def ofMicros? (micros : Int) : Option Moment :=
  if h : earliestMicros ≤ micros ∧ micros ≤ latestMicros then some ⟨micros, h⟩ else none

def epoch : Moment where
  micros := 0

def add? (moment : Moment) (span : Duration) : Option Moment :=
  ofMicros? (moment.micros + span.micros)

/-- The whole second in which a moment lies, counted from 1970. -/
def second (moment : Moment) : Int :=
  moment.micros.fdiv Duration.microsPerSecond

def before (a b : Moment) : Bool :=
  a.micros < b.micros

theorem ext {a b : Moment} (h : a.micros = b.micros) : a = b := by
  cases a
  cases b
  simp only [mk.injEq]
  exact h

theorem ofMicros?_eq_some {micros : Int} {moment : Moment} :
    ofMicros? micros = some moment ↔ moment.micros = micros := by
  constructor
  · intro h
    unfold ofMicros? at h
    split at h
    · injection h with h
      subst h
      rfl
    · contradiction
  · rintro rfl
    simp [ofMicros?, moment.inCalendar]

@[simp] theorem ofMicros?_micros (moment : Moment) : ofMicros? moment.micros = some moment :=
  ofMicros?_eq_some.2 rfl

theorem add?_eq_some {moment later : Moment} {span : Duration} :
    moment.add? span = some later ↔ later.micros = moment.micros + span.micros :=
  ofMicros?_eq_some

end Moment

end AccountSessions
