import AnalyticsQuery.Calendar.Day

/-!
# Wall-clock times

A reading of a wall clock, in microseconds since the first midnight of year 1.
Arithmetic on it knows nothing of time zones.  A result outside years 1 to 9999
is an error.
-/

namespace AnalyticsQuery.Calendar

def microsecondsPerSecond : Int := 1000000

def microsecondsPerMinute : Int := 60000000

def microsecondsPerHour : Int := 60 * microsecondsPerMinute

def microsecondsPerDay : Int := 24 * microsecondsPerHour

/-- Why a calendar computation has no result. -/
inductive CalendarError where
  /-- The result is outside the supported years. -/
  | overflow
  /-- Counting months led to a year outside the supported years. -/
  | yearOutOfRange (year : Int)
  deriving DecidableEq, Repr

structure WallTime where
  microseconds : Int
  inRange : 0 ≤ microseconds ∧ microseconds < dayCount * microsecondsPerDay
  deriving DecidableEq

namespace WallTime

def ofMicroseconds (microseconds : Int) : Except CalendarError WallTime :=
  if inRange : 0 ≤ microseconds ∧ microseconds < dayCount * microsecondsPerDay then
    .ok ⟨microseconds, inRange⟩
  else .error .overflow

/-- The time `offset` microseconds later. -/
def shift (time : WallTime) (offset : Int) : Except CalendarError WallTime :=
  ofMicroseconds (time.microseconds + offset)

def day (time : WallTime) : Int := time.microseconds / microsecondsPerDay

/-- The day on which a time falls. -/
def date (time : WallTime) : Date :=
  ⟨time.day, by
    have hrange := time.inRange
    simp only [day, dayCount, microsecondsPerDay, microsecondsPerHour,
      microsecondsPerMinute] at hrange ⊢
    omega⟩

def midnight (date : Date) : WallTime :=
  ⟨date.day * microsecondsPerDay, by
    have hrange := date.inRange
    simp only [dayCount, microsecondsPerDay, microsecondsPerHour,
      microsecondsPerMinute] at hrange ⊢
    omega⟩

def timeOfDay (time : WallTime) : Int := time.microseconds % microsecondsPerDay

def hour (time : WallTime) : Int := time.timeOfDay / microsecondsPerHour

def minute (time : WallTime) : Int :=
  time.timeOfDay % microsecondsPerHour / microsecondsPerMinute

def second (time : WallTime) : Int := time.timeOfDay % microsecondsPerMinute / 1000000

def microsecond (time : WallTime) : Int := time.timeOfDay % 1000000

end WallTime

end AnalyticsQuery.Calendar
