import AnalyticsQuery.Calendar.Bucket
import AnalyticsQuery.Compile.Error
import AnalyticsQuery.Config
import AnalyticsQuery.Document.Text
import AnalyticsQuery.Metadata
import AnalyticsQuery.Query.Operand

/-!
# Names and values in requests

What a compilation knows beside the query: a source of names, the current moment, and the
settings.  From these, fields get their names and operands their filter text.
-/

namespace AnalyticsQuery

open Calendar (CalendarUnit WallTime ZonedTime)

/-- A source of names for tables and fields, each of which it may fail to find. -/
structure MetadataProvider where
  tableName : Identifier → Except CompileError String
  fieldName : Int → Except CompileError String

/-- The source that looks names up in dictionaries.  An identifier that has no name is
shown, if it can be. -/
def Metadata.provider (metadata : Metadata) : MetadataProvider where
  tableName table :=
    match metadata.tableName? table with
    | some name => .ok name
    | none => .error (CompileError.unlessLong table.isLong (.unresolved .table table))
  fieldName number :=
    match metadata.fieldName? number with
    | some name => .ok name
    | none =>
        .error (CompileError.unlessLong (Numeral.isLong number)
          (.unresolved .field (.number number)))

namespace Metadata

variable {metadata : Metadata} {table : Identifier} {number : Int} {name : String}

theorem tableName_provider_eq_ok_iff :
    metadata.provider.tableName table = .ok name ↔ metadata.tableName? table = some name := by
  simp only [provider]
  cases metadata.tableName? table <;> simp

theorem fieldName_provider_eq_ok_iff :
    metadata.provider.fieldName number = .ok name ↔ metadata.fieldName? number = some name := by
  simp only [provider]
  cases metadata.fieldName? number <;> simp

theorem tableName_provider_of_error {error : CompileError}
    (h : metadata.provider.tableName table = .error error) :
    error = CompileError.unlessLong table.isLong (.unresolved .table table) := by
  simp only [provider] at h
  cases hname : metadata.tableName? table with
  | some name => simp [hname] at h
  | none => simpa [hname] using h.symm

theorem fieldName_provider_of_error {error : CompileError}
    (h : metadata.provider.fieldName number = .error error) :
    error = CompileError.unlessLong (Numeral.isLong number)
      (.unresolved .field (.number number)) := by
  simp only [provider] at h
  cases hname : metadata.fieldName? number with
  | some name => simp [hname] at h
  | none => simpa [hname] using h.symm

end Metadata

structure Compiler where
  metadata : MetadataProvider
  clock : ZonedTime
  config : Config

namespace Compiler

/-- A compiler that knows no names, at the first midnight of the calendar. -/
def bare : Compiler :=
  { metadata := Metadata.provider {}, clock := ⟨WallTime.midnight ⟨0, by decide⟩, 0⟩
    config := {} }

/-- The current time on the clocks of the report's zone. -/
def now (compiler : Compiler) : Except CompileError WallTime :=
  ofCalendar (compiler.clock.inZone compiler.config.zone)

def tableName (compiler : Compiler) (table : Identifier) : Except CompileError String :=
  compiler.metadata.tableName table

def plainFieldName (compiler : Compiler) : PlainField → Except CompileError String
  | .id number => compiler.metadata.fieldName number
  | .literal name => .ok name

/-- Name of a field; the unit that buckets it does not matter. -/
def fieldName (compiler : Compiler) (field : Field) : Except CompileError String :=
  compiler.plainFieldName field.base

/-- The current moment truncated to a unit, and moved by some of them. -/
def relativeTime (compiler : Compiler) (amount : Int) (unit : CalendarUnit) :
    Except CompileError WallTime := do
  let start ← ofCalendar ((← compiler.now).truncate unit)
  ofCalendar (start.add unit amount)

/-- An operand as filter text.  A count of days that does not lead into the future
is left to the API; other moments become dates. -/
def operandText (compiler : Compiler) : Operand → Except CompileError String
  | .literal value _ => ofWritten value.displayText?
  | .relative amount unit =>
      if unit.normalize = .day ∧ amount ≤ 0 then
        ofWritten (DayBound.daysAgoText? (-amount).toNat)
      else do return (← compiler.relativeTime amount unit).date.requestText
  | .absolute timestamp unit => do
      let time ← ofCalendar (timestamp.inZone compiler.config.zone)
      return (← ofCalendar (time.truncate unit)).date.requestText

end Compiler

end AnalyticsQuery
