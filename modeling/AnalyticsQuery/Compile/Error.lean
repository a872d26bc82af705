import AnalyticsQuery.Calendar.Named
import AnalyticsQuery.DateRange
import AnalyticsQuery.Metadata

/-!
# Compilation errors
-/

namespace AnalyticsQuery

open Calendar (CalendarError)

inductive CompileError where
  /-- The filter implies more than one date range. -/
  | multipleDateRanges (ranges : List DateRange)
  /-- A condition of the date range is negated. -/
  | negatedDateRange
  | multipleSegments (names : List String)
  | unresolved (kind : ReferenceKind) (identifier : Identifier)
  /-- A segment that is not built in has no filter text. -/
  | unexpandedSegment (id : Identifier)
  /-- An order refers to an aggregation without a name. -/
  | unnamedAggregation (index : Int)
  | aggregationOutOfRange (index : Int) (count : Nat)
  /-- A number has too many digits to be written. -/
  | longNumber
  | calendar (error : CalendarError)
  deriving DecidableEq

namespace CompileError

def message : CompileError → String
  | multipleDateRanges ranges =>
      "Multiple date filters are not supported" ++
        if ranges.isEmpty then ""
        else " in filters: " ++ " ".intercalate (ranges.map DateRange.text)
  | negatedDateRange => ":not is not yet implemented for date filters"
  | multipleSegments names =>
      "Only one Google Analytics segment allowed at a time, got " ++ Text.quotedList names
  | unresolved kind identifier => kind.unresolvedMessage identifier.quotedText
  | unexpandedSegment id =>
      "segment " ++ id.quotedText ++
        " is not a built-in segment and must be expanded before compilation"
  | unnamedAggregation index =>
      "cannot sort by aggregation " ++ Numeral.intText index ++ ": it is not a named metric"
  | aggregationOutOfRange index count =>
      "aggregation index " ++ Numeral.intText index ++ " out of range for " ++
        Numeral.natText count ++ " aggregation(s)"
  | longNumber => Numeral.longMessage
  | calendar error => error.message

/-- An error that shows a number, if the number can be written. -/
def unlessLong (isLong : Bool) (error : CompileError) : CompileError :=
  if isLong then longNumber else error

end CompileError

/-- Texts of numbers as results of a compilation. -/
def ofWritten {α : Type} : Option α → Except CompileError α
  | some value => .ok value
  | none => .error .longNumber

/-- Calendar computations as steps of a compilation. -/
def ofCalendar {α : Type} (result : Except CalendarError α) : Except CompileError α :=
  result.mapError .calendar

end AnalyticsQuery
