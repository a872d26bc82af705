import AnalyticsQuery.Calendar.Bucket
import AnalyticsQuery.Text.Numeral
import AnalyticsQuery.Text.Quoted

/-!
# Calendar computations by name

Units and relations as callers name them, and what goes wrong with a name that
means nothing or with a date that does not exist.
-/

namespace AnalyticsQuery.Calendar

inductive NamedError where
  | unknownUnit (name : String)
  | unknownRelation (symbol : String)
  /-- A day after today cannot be counted back. -/
  | futureDay (offset : Int)
  /-- A number of days has too many digits. -/
  | longNumber
  | calendar (error : CalendarError)
  deriving DecidableEq, Repr

def CalendarError.message : CalendarError → String
  | overflow => "date value out of range"
  | yearOutOfRange year => "year " ++ Numeral.intText year ++ " is out of range"

def DateFault.message : DateFault → String
  | year number => "year " ++ Numeral.intText number ++ " is out of range"
  | month => "month must be in 1..12"
  | dayOfMonth => "day is out of range for month"

namespace NamedError

def message : NamedError → String
  | unknownUnit name => Text.quoted name ++ " is not a valid CalendarUnit"
  | unknownRelation symbol => "no date range for comparison " ++ Text.quoted symbol
  | futureDay offset =>
      if Numeral.isLong offset then Numeral.longMessage
      else "future day offset " ++ Numeral.intText offset ++ " has no relative token"
  | longNumber => Numeral.longMessage
  | calendar error => error.message

end NamedError

def unitNamed (name : String) : Except NamedError CalendarUnit :=
  match CalendarUnit.ofName? name with
  | some unit => .ok unit
  | none => .error (.unknownUnit name)

/-- A computation with a unit given by name. -/
def withUnit {α : Type} (name : String) (compute : CalendarUnit → Except CalendarError α) :
    Except NamedError α := do
  (compute (← unitNamed name)).mapError .calendar

/-- Days that compare with the bucket of a time.  A relation that is not known is
only noticed once the bucket is. -/
def comparisonDaysNamed (time : WallTime) (unitName symbol : String) :
    Except NamedError (Bounds Date) :=
  match TimeRelation.ofSymbol? symbol with
  | some relation => withUnit unitName fun unit => time.comparisonDays unit relation
  | none => do
      let _ ← withUnit unitName time.bucket
      .error (.unknownRelation symbol)

end AnalyticsQuery.Calendar
