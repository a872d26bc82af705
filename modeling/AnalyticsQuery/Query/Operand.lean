import AnalyticsQuery.Calendar.Unit
import AnalyticsQuery.Document.Basic

/-!
# Operands

The values with which filters compare fields: literal constants, offsets from
the current moment, and fixed moments.
-/

namespace AnalyticsQuery

open Calendar (CalendarUnit Timestamp)

inductive Operand where
  /-- A constant, with optional information about its type that nothing reads. -/
  | literal (value : Document) (typeInfo : Option Document.Parts)
  /-- The moment `amount` units after the current one. -/
  | relative (amount : Int) (unit : CalendarUnit)
  | absolute (timestamp : Timestamp) (unit : CalendarUnit)
  deriving DecidableEq

end AnalyticsQuery
