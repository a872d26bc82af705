import AnalyticsQuery.Calendar.Unit
import AnalyticsQuery.Text.Numeral
import AnalyticsQuery.Text.Quoted

/-!
# Field references

A field is known by its metadata id or by its name.  A reference may also bucket
the field by a calendar unit; only such references take part in date ranges.
-/

namespace AnalyticsQuery

open Calendar (CalendarUnit)

/-- A number or a name, by which tables, metrics and segments are known. -/
inductive Identifier where
  | number (value : Int)
  | name (value : String)
  deriving DecidableEq

namespace Identifier

/-- The identifier as a message shows it: names are quoted. -/
def quotedText : Identifier → String
  | number value => Numeral.intText value
  | name value => Text.quoted value

/-- Whether the identifier is a number that is too long to be shown. -/
def isLong : Identifier → Bool
  | number value => Numeral.isLong value
  | name _ => false

def name? : Identifier → Option String
  | number _ => none
  | name value => some value

end Identifier

inductive PlainField where
  | id (number : Int)
  | literal (name : String)
  deriving DecidableEq

/-- Whether a field is known by a number that is too long to be shown. -/
def PlainField.isLong : PlainField → Bool
  | id number => Numeral.isLong number
  | literal _ => false

inductive Field where
  | plain (field : PlainField)
  | bucketed (field : PlainField) (unit : CalendarUnit)
  deriving DecidableEq

namespace Field

def isBucketed : Field → Bool
  | plain _ => false
  | bucketed _ _ => true

/-- The field itself, whatever unit buckets it. -/
def base : Field → PlainField
  | plain field => field
  | bucketed field _ => field

/-- Unit by which comparisons on the field go; a plain field goes by days. -/
def unit : Field → CalendarUnit
  | plain _ => .day
  | bucketed _ unit => unit

end Field

end AnalyticsQuery
