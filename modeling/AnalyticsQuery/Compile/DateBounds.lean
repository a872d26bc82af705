import AnalyticsQuery.Compile.Basic
import AnalyticsQuery.Filter.Prune
import AnalyticsQuery.Filter.Units

/-!
# The date range of a filter

Conditions on bucketed fields give the range of days that a request asks for.
Two children of an "and" may each give bounds, as long as they do not disagree;
under every other junction at most one child may, and none under a negation.
-/

namespace AnalyticsQuery

open Calendar (Bounds CalendarUnit TimeRelation WallTime)

/-- Bounds of `day relation today + offset` by days counted back from today.  A
strict comparison moves by a day, since bounds are inclusive; days in the future
cannot be counted back. -/
def relativeDayBounds? (relation : TimeRelation) (offset : Int) : Option (Bounds DayBound) :=
  let shifted := match relation with
    | .before => offset - 1
    | .after => offset + 1
    | _ => offset
  if 0 < shifted then none
  else
    let bound := some (DayBound.daysAgo (-shifted).toNat)
    some (relation.restrict ⟨bound, bound⟩)

/-- Bounds whose numbers of days can be written. -/
def writableBounds (bounds : Bounds DayBound) : Except CompileError (Bounds DayBound) :=
  if bounds.lower.any DayBound.isLong || bounds.upper.any DayBound.isLong then
    .error .longNumber
  else .ok bounds

theorem eq_of_writableBounds {bounds written : Bounds DayBound}
    (h : writableBounds bounds = .ok written) : written = bounds := by
  unfold writableBounds at h
  split at h
  · exact nomatch h
  · exact (Except.ok.inj h).symm

namespace Compiler

variable (compiler : Compiler)

/-- Bounds of the days that compare with the bucket of a time. -/
def bucketBounds (relation : TimeRelation) (unit : CalendarUnit) (time : WallTime) :
    Except CompileError (Bounds DayBound) := do
  return (← ofCalendar (time.comparisonDays unit relation)).map .date

/-- Bounds that a comparison with an operand implies for a field bucketed by `unit`. -/
def operandBounds (relation : TimeRelation) (unit : CalendarUnit) :
    Operand → Except CompileError (Bounds DayBound)
  | .relative amount valueUnit =>
      match if valueUnit.normalize = .day then relativeDayBounds? relation amount else none with
      | some bounds => writableBounds bounds
      | none => do
          bucketBounds relation unit (← compiler.relativeTime amount valueUnit)
  | .absolute timestamp _ => do
      bucketBounds relation unit
        (← ofCalendar (timestamp.inZone compiler.config.zone))
  | .literal value typeInfo => do
      let bound := some (DayBound.text (← compiler.operandText (.literal value typeInfo)))
      return relation.restrict ⟨bound, bound⟩

/-- Bounds that a condition implies; `none` if it is no condition of the date range. -/
def conditionBounds : Condition → Except CompileError (Option (Bounds DayBound))
  | .comparison operator (.bucketed _ unit) value =>
      match operator.timeRelation? with
      | some relation => do return some (← compiler.operandBounds relation unit value)
      | none => .ok none
  | .between (.bucketed _ unit) lower upper => do
      let lowerBounds ← compiler.operandBounds .notBefore unit lower
      let upperBounds ← compiler.operandBounds .notAfter unit upper
      return some ⟨lowerBounds.lower, upperBounds.upper⟩
  | _ => .ok none

def conditionRange (condition : Condition) : Except CompileError (Option DateRange) := do
  return (← compiler.conditionBounds condition).map DateRange.ofBounds

/-- Ranges of the two children of an "and" together. -/
def mergeRanges : Option DateRange → Option DateRange →
    Except CompileError (Option DateRange)
  | none, right => .ok right
  | some left, none => .ok (some left)
  | some left, some right =>
      match left.merge? right with
      | some merged => .ok (some merged)
      | none => .error (.multipleDateRanges [left, right])

/-- The one range among those of the children of another junction. -/
def onlyRange (ranges : List (Option DateRange)) : Except CompileError (Option DateRange) :=
  match ranges.filterMap id with
  | [] => .ok none
  | [range] => .ok (some range)
  | found => .error (.multipleDateRanges found)

def combineRanges (operator : Junction) (ranges : List (Option DateRange)) :
    Except CompileError (Option DateRange) :=
  match operator, ranges with
  | .and, [first, second] => mergeRanges first second
  | _, ranges => onlyRange ranges

mutual

/-- Range of a filter; `none` if no condition in it gives bounds. -/
def filterRange : Filter → Except CompileError (Option DateRange)
  | .condition leaf => compiler.conditionRange leaf
  | .junction operator children => do combineRanges operator (← filterRanges children)
  | .negation child =>
      if child.leaves.any Condition.isDateRange then .error .negatedDateRange else .ok none

def filterRanges : List Filter → Except CompileError (List (Option DateRange))
  | [] => .ok []
  | child :: children => do
      let range ← filterRange child
      return range :: (← filterRanges children)

end

/-- The range that stands in when a filter has no condition on dates. -/
def fullRange : DateRange := ⟨compiler.config.earliestDate, compiler.config.latestDate⟩

/-- Date range of an optional filter. -/
def dateRange (filter : Option Filter) : Except CompileError DateRange :=
  match filter with
  | none => .ok compiler.fullRange
  | some filter => do
      return (← compiler.filterRange filter.normalizeUnits).getD compiler.fullRange

/-! ## Reports

A condition on a bucketed field that gives no bounds is reported when it is asked
whether it does.  The walk that finds the range asks every condition, also those
under a negation.
-/

/-- Computations that also keep the conditions reported so far. -/
abbrev Reporting : Type → Type := StateT (List Condition) (Except CompileError)

/-- Whether a condition gives bounds; on a bucketed field, one that does not is reported. -/
def askDateRange (leaf : Condition) : Reporting Bool := do
  if leaf.isDropped then modify (· ++ [leaf])
  return leaf.isDateRange

mutual

/-- Range of a filter, with reports on the way. -/
def reportedRange : Filter → Reporting (Option DateRange)
  | .condition leaf => do
      if ← askDateRange leaf then compiler.conditionRange leaf else return none
  | .junction operator children => do combineRanges operator (← reportedRanges children)
  | .negation child => do
      match ← child.pruneAsking fun leaf => return !(← askDateRange leaf) with
      | some _ => throw .negatedDateRange
      | none => return none

def reportedRanges : List Filter → Reporting (List (Option DateRange))
  | [] => return []
  | child :: children => do
      let range ← reportedRange child
      return range :: (← reportedRanges children)

end

/-- Conditions reported by a walk through an optional filter that finds its range. -/
def droppedConditions (filter : Option Filter) : List Condition :=
  match filter with
  | none => []
  | some filter =>
      match (compiler.reportedRange filter.normalizeUnits).run [] with
      | .ok (_, reports) => reports
      | .error _ => []

end Compiler

end AnalyticsQuery
