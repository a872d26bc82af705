import AnalyticsQuery.Calendar.Unit
import AnalyticsQuery.Calendar.WallTime

/-!
# Calendar buckets

A granularity divides wall-clock time into buckets.  `truncate` finds the start
of the bucket that contains a time, `add` moves a time by whole buckets, and
`comparisonDays` gives the days on which some instant compares with a bucket in
the way asked for.
-/

namespace AnalyticsQuery.Calendar

/-- Optional inclusive bounds; an absent bound does not limit. -/
structure Bounds (α : Type) where
  lower : Option α
  upper : Option α
  deriving DecidableEq

namespace Bounds

def map {α β : Type} (f : α → β) (bounds : Bounds α) : Bounds β :=
  ⟨bounds.lower.map f, bounds.upper.map f⟩

end Bounds

/-- How a moment is compared with a bucket of time. -/
inductive TimeRelation where
  | before
  | notAfter
  | after
  | notBefore
  | within
  deriving DecidableEq, Repr

namespace TimeRelation

def all : List TimeRelation := [before, notAfter, after, notBefore, within]

def symbol : TimeRelation → String
  | before => "<"
  | notAfter => "<="
  | after => ">"
  | notBefore => ">="
  | within => "="

def ofSymbol? (symbol : String) : Option TimeRelation := all.find? (·.symbol = symbol)

/-- Of a lower and an upper bound, those that a relation implies. -/
def restrict {α : Type} (relation : TimeRelation) (bounds : Bounds α) : Bounds α :=
  match relation with
  | before | notAfter => ⟨none, bounds.upper⟩
  | after | notBefore => ⟨bounds.lower, none⟩
  | within => bounds

end TimeRelation

/-- Start of the bucket that contains a time, in microseconds.  Weeks start on
Sunday, ISO weeks on Monday. -/
def Granularity.floor (granularity : Granularity) (microseconds : Int) : Int :=
  let day := microseconds / microsecondsPerDay
  match granularity with
  | minute => microseconds - microseconds % microsecondsPerMinute
  | hour => microseconds - microseconds % microsecondsPerHour
  | .day => day * microsecondsPerDay
  | week => (day - daysSinceSunday day) * microsecondsPerDay
  | isoWeek => (day - daysSinceMonday day) * microsecondsPerDay
  | month => monthStart (monthOf day) * microsecondsPerDay
  | year => yearStart (yearOf day) * microsecondsPerDay

/-- Bounds of a 32-bit signed count of years. -/
def fitsYearCount (year : Int) : Bool := -2147483648 ≤ year && year ≤ 2147483647

namespace WallTime

/-- Start of the bucket that contains a time. -/
def truncate (time : WallTime) (unit : CalendarUnit) : Except CalendarError WallTime :=
  ofMicroseconds (unit.granularity.floor time.microseconds)

/-- Moves by months; a day that the month reached lacks becomes its last day. -/
def addMonths (time : WallTime) (amount : Int) : Except CalendarError WallTime :=
  let month := monthOf time.day + amount
  let year := month / 12
  if fitsYearCount year then
    if 1 ≤ year ∧ year ≤ 9999 then
      let dayOffset := time.day - monthStart (monthOf time.day)
      let day := monthStart month + min dayOffset (monthLength month - 1)
      ofMicroseconds (day * microsecondsPerDay + time.timeOfDay)
    else .error (.yearOutOfRange year)
  else .error .overflow

/-- Moves by a number of units. -/
def add (time : WallTime) (unit : CalendarUnit) (amount : Int) :
    Except CalendarError WallTime :=
  match unit.granularity with
  | .minute => time.shift (amount * microsecondsPerMinute)
  | .hour => time.shift (amount * microsecondsPerHour)
  | .day => time.shift (amount * microsecondsPerDay)
  | .week | .isoWeek => time.shift (amount * (7 * microsecondsPerDay))
  | .month => time.addMonths amount
  | .year => time.addMonths (12 * amount)

/-- First and last instant of the bucket that contains a time. -/
def bucket (time : WallTime) (unit : CalendarUnit) :
    Except CalendarError (WallTime × WallTime) := do
  let first ← time.truncate unit
  let next ← first.add unit 1
  let last ← next.shift (-1)
  return (first, last)

/-- First and last day touched by the bucket that contains a time. -/
def bucketDays (time : WallTime) (unit : CalendarUnit) :
    Except CalendarError (Bounds Date) := do
  let (first, last) ← time.bucket unit
  return ⟨some first.date, some last.date⟩

/-- Days with an instant that stands in `relation` to the bucket containing `time`.
A day of which only a part does is one of them. -/
def comparisonDays (time : WallTime) (unit : CalendarUnit) (relation : TimeRelation) :
    Except CalendarError (Bounds Date) := do
  let (first, last) ← time.bucket unit
  match relation with
  | .before => return ⟨none, some (← first.shift (-1)).date⟩
  | .notAfter => return ⟨none, some last.date⟩
  | .after => return ⟨some (← last.shift 1).date, none⟩
  | .notBefore => return ⟨some first.date, none⟩
  | .within => return ⟨some first.date, some last.date⟩

end WallTime

end AnalyticsQuery.Calendar
