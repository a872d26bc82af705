import AnalyticsQuery.Calendar.Named
import AnalyticsQuery.Calendar.Timestamp

/-!
# Date ranges

The inclusive range of days that a request asks for.  Each bound is a text of the
API's date language: a date, a day counted back from today, or whatever a filter
compares a date field with.
-/

namespace AnalyticsQuery

open Calendar (Bounds Date)

structure DateRange where
  first : Option String := none
  last : Option String := none
  deriving DecidableEq

namespace DateRange

def empty : DateRange := {}

def isEmpty (range : DateRange) : Bool := range.first.isNone && range.last.isNone

def text (range : DateRange) : String :=
  "[" ++ range.first.getD "" ++ " .. " ++ range.last.getD "" ++ "]"

/-- A bound that one side sets, or that both set alike; `none` when they differ. -/
def mergeBound (left right : Option String) : Option (Option String) :=
  match left, right with
  | some leftText, some rightText => if leftText = rightText then some left else none
  | some _, none => some left
  | none, _ => some right

/-- Both ranges together, unless they set a bound differently. -/
def merge? (left right : DateRange) : Option DateRange := do
  let first ← mergeBound left.first right.first
  let last ← mergeBound left.last right.last
  return ⟨first, last⟩

end DateRange

/-- A bound before it is written down. -/
inductive DayBound where
  | daysAgo (count : Nat)
  | date (date : Date)
  | text (value : String)
  deriving DecidableEq

namespace DayBound

/-- The API's word for a day counted back from today. -/
def daysAgoText : Nat → String
  | 0 => "today"
  | 1 => "yesterday"
  | count => Numeral.natText count ++ "daysAgo"

/-- The same, if the number of days can be written. -/
def daysAgoText? (count : Nat) : Option String :=
  if Numeral.isLong count then none else some (daysAgoText count)

/-- Text of the day `offset` days after today, which must not be in the future. -/
def relativeText (offset : Int) : Except Calendar.NamedError String :=
  if 0 < offset then .error (.futureDay offset)
  else (daysAgoText? (-offset).toNat).elim (.error .longNumber) .ok

/-- Whether the number of days of a bound is too long to be written. -/
def isLong : DayBound → Bool
  | daysAgo count => Numeral.isLong count
  | _ => false

def toText : DayBound → String
  | daysAgo count => daysAgoText count
  | date day => day.requestText
  | text value => value

end DayBound

def DateRange.ofBounds (bounds : Bounds DayBound) : DateRange :=
  ⟨bounds.lower.map DayBound.toText, bounds.upper.map DayBound.toText⟩

end AnalyticsQuery
