import AnalyticsQuery.Proofs.Compile.Accounting
import AnalyticsQuery.Proofs.Compile.Log
import AnalyticsQuery.Proofs.DateRange.Operand
import AnalyticsQuery.Proofs.Filter.Ranges

/-!
# Ranges as sugar

A range says no more than the two comparisons that it stands for.  The filter text, the
date range, the segment and the log of a request do not tell in which way it is written.
-/

namespace AnalyticsQuery

open Calendar (Bounds CalendarUnit TimeRelation WallTime)
open Fallible FilterText

/-! ## Bounds of a range -/

namespace Compiler

variable {compiler : Compiler} {query : Query}

/-- A comparison has no bounds but those that its relation implies. -/
theorem restrict_operandBounds {relation : TimeRelation} {unit : CalendarUnit}
    {operand : Operand} {bounds : Bounds DayBound}
    (h : compiler.operandBounds relation unit operand = .ok bounds) :
    relation.restrict bounds = bounds := by
  obtain ⟨first, last, rfl⟩ := exists_restrict_of_operandBounds h
  exact relation.restrict_restrict _

/-- Ranges that bound different sides are always merged. -/
theorem mergeRanges_sides (first last : Option String) :
    mergeRanges (some ⟨first, none⟩) (some ⟨none, last⟩) = .ok (some ⟨first, last⟩) := by
  cases first <;> cases last <;> rfl

theorem filterRange_bothBounds (compiler : Compiler) (field : Field) (lower upper : Operand) :
    compiler.filterRange (Filter.bothBounds field lower upper) =
      compiler.conditionRange (.between field lower upper) := by
  cases field with
  | plain field => rfl
  | bucketed field unit =>
      have hlower : compiler.conditionRange (.comparison .atLeast (.bucketed field unit) lower) =
          _ := conditionRange_comparison rfl field unit lower
      have hupper : compiler.conditionRange (.comparison .atMost (.bucketed field unit) upper) =
          _ := conditionRange_comparison rfl field unit upper
      rw [Filter.bothBounds, filterRange_junction, List.mapM_cons, List.mapM_cons, List.mapM_nil,
        filterRange, filterRange, hlower, hupper, conditionRange, conditionBounds]
      cases hfirst : compiler.operandBounds .notBefore unit lower with
      | error error => rfl
      | ok lowerBounds =>
          cases hlast : compiler.operandBounds .notAfter unit upper with
          | error error => rfl
          | ok upperBounds =>
              rw [← restrict_operandBounds hfirst, ← restrict_operandBounds hlast]
              exact mergeRanges_sides _ _

theorem isDateRange_between (field : Field) (lower upper : Operand) :
    (Condition.between field lower upper).isDateRange =
      ((Condition.comparison .atLeast field lower).isDateRange ||
        (Condition.comparison .atMost field upper).isDateRange) :=
  (Bool.or_self _).symm

theorem filterRange_of_splitsRanges {filter other : Filter} (h : filter.SplitsRanges other) :
    compiler.filterRange filter = compiler.filterRange other := by
  refine h.splitInduction ?condition ?range ?junction ?negation
  case condition => exact fun leaf => rfl
  case range =>
    intro field lower upper
    exact (compiler.filterRange_bothBounds field lower upper).symm
  case junction =>
    intro operator children others _ hchildren
    rw [filterRange_junction, filterRange_junction, mapM_eq_of_forall₂ hchildren]
  case negation =>
    intro child other hsplits _
    rw [filterRange, filterRange,
      Filter.any_leaves_of_splitsRanges isDateRange_between hsplits]

/-! ## Text of a range -/

theorem escapeClause_ne_empty {text : String} (h : text ≠ "") : escapeClause text ≠ "" := by
  obtain ⟨char, hchar⟩ := List.exists_mem_of_ne_nil text.toList fun hnil =>
    h (String.toList_injective hnil)
  intro hempty
  have hescaped : char ∈ (escapeClause text).toList := by
    rw [escapeClause, escape, String.toList_ofList]
    exact mem_escapeChars hchar
  rw [hempty] at hescaped
  exact List.not_mem_nil hescaped

theorem filterText_bothBounds (compiler : Compiler) (field : Field) (lower upper : Operand) :
    compiler.filterText (Filter.bothBounds field lower upper) =
      compiler.filterText (.condition (.between field lower upper)) := by
  have htexts : ∀ first last : String, first ≠ "" → last ≠ "" →
      nonEmpty [some first, some last] = [first, last] := by
    intro first last hfirst hlast
    simp [nonEmpty, Option.filter_some, hfirst, hlast]
  rw [Filter.bothBounds, filterText_junction, List.mapM_cons, List.mapM_cons, List.mapM_nil,
    filterText, filterText, filterText, conditionText, conditionText, conditionText, clauseTexts,
    clauseTexts, clauseTexts]
  cases compiler.fieldName field with
  | error error => rfl
  | ok name =>
      cases compiler.operandText lower with
      | error error => rfl
      | ok lowerText =>
          cases compiler.operandText upper with
          | error error => rfl
          | ok upperText =>
              have hlower : name ++ ">=" ++ lowerText ≠ "" := by simp
              have hupper : name ++ "<=" ++ upperText ≠ "" := by simp
              have hjoined := htexts _ _ (escapeClause_ne_empty hlower)
                (escapeClause_ne_empty hupper)
              have hsingle : ∀ text, andSeparator.intercalate [text] = text := by simp
              change Except.ok (some (andSeparator.intercalate (nonEmpty
                  [some (andSeparator.intercalate [escapeClause (name ++ ">=" ++ lowerText)]),
                    some (andSeparator.intercalate [escapeClause (name ++ "<=" ++ upperText)])]))) =
                Except.ok (some (andSeparator.intercalate
                  [escapeClause (name ++ ">=" ++ lowerText),
                    escapeClause (name ++ "<=" ++ upperText)]))
              rw [hsingle, hsingle, hjoined]

theorem filterText_of_splitsRanges {filter other : Filter} (h : filter.SplitsRanges other) :
    compiler.filterText filter = compiler.filterText other := by
  refine h.splitInduction ?condition ?range ?junction ?negation
  case condition => exact fun leaf => rfl
  case range =>
    intro field lower upper
    exact (compiler.filterText_bothBounds field lower upper).symm
  case junction =>
    intro operator children others _ hchildren
    rw [filterText_junction, filterText_junction, mapM_eq_of_forall₂ hchildren]
  case negation =>
    intro child other _ hchild
    rw [filterText_negation, filterText_negation, hchild]

/-- The half of the filter that is written says the same. -/
theorem requestFilter_of_splitsRanges {filter other : Filter} (h : filter.SplitsRanges other) :
    compiler.requestFilter (some filter) = compiler.requestFilter (some other) :=
  requestFilter_of_rel filterText_of_splitsRanges
    (Filter.SplitsRanges.prune (fun _ _ _ => rfl) (fun _ _ _ => rfl) h)

/-! ## Whole compilations -/

theorem dateRange_of_splitsRanges {filter other : Filter} (h : filter.SplitsRanges other) :
    compiler.dateRange (some filter) = compiler.dateRange (some other) := by
  rw [dateRange, dateRange, filterRange_of_splitsRanges h.normalizeUnits]

theorem segment_of_splitsRanges {filter other : Filter} (h : filter.SplitsRanges other) :
    Filter.segment (some filter) = Filter.segment (some other) := by
  have hids : filter.segmentIds = other.segmentIds := by
    rw [Filter.segmentIds, Filter.segmentIds, List.filterMap_eq_flatMap_toList,
      List.filterMap_eq_flatMap_toList]
    exact Filter.flatMap_leaves_of_splitsRanges (fun _ _ _ => rfl) h
  rw [Filter.segment, Filter.segment, Option.elim_some, Option.elim_some,
    Filter.builtinSegments, Filter.builtinSegments, hids]

theorem stageParameters_of_splitsRanges {filter other : Filter} (h : filter.SplitsRanges other)
    (stage : Stage) :
    compiler.stageParameters { query with filter := some filter } stage =
      compiler.stageParameters { query with filter := some other } stage :=
  stageParameters_of_filter (dateRange_of_splitsRanges h) (requestFilter_of_splitsRanges h)
    (segment_of_splitsRanges h) stage

/-! ## The log -/

theorem reportOf_of_isDateRange {leaf : Condition}
    (h : leaf.onBucketedField = leaf.isDateRange) : reportOf leaf = [] := by
  rw [reportOf, Condition.isDropped, h]
  cases leaf.isDateRange <;> rfl

section Reports

variable (field : Field) (lower upper value : Operand)

theorem reportOf_between : reportOf (.between field lower upper) = [] :=
  reportOf_of_isDateRange (Bool.and_true _).symm

theorem reportOf_atLeast : reportOf (.comparison .atLeast field value) = [] :=
  reportOf_of_isDateRange (Bool.and_true _).symm

theorem reportOf_atMost : reportOf (.comparison .atMost field value) = [] :=
  reportOf_of_isDateRange (Bool.and_true _).symm

end Reports

theorem reports_of_splitsRanges {filter other : Filter} (h : filter.SplitsRanges other) :
    filter.leaves.flatMap reportOf = other.leaves.flatMap reportOf := by
  apply Filter.flatMap_leaves_of_splitsRanges _ h
  intro field lower upper
  rw [reportOf_between, reportOf_atLeast, reportOf_atMost, List.nil_append]

/-- The walk for the range reports the same, also if it fails on the way. -/
theorem reportedIn_of_splitsRanges {filter other : Filter} (h : filter.SplitsRanges other) :
    compiler.reportedIn filter = compiler.reportedIn other := by
  refine h.splitInduction ?condition ?range ?junction ?negation
  case condition => exact fun leaf => rfl
  case range =>
    intro field lower upper
    simp only [Filter.bothBounds, reportedIn, reportedInEach, reportOf_between, reportOf_atLeast,
      reportOf_atMost, List.nil_append, ite_self]
  case junction =>
    intro operator children others hsplits hchildren
    rw [reportedIn, reportedIn]
    induction hsplits with
    | nil => rfl
    | cons hsplit _ ih =>
        obtain ⟨hchild, hrest⟩ := List.forall₂_cons.1 hchildren
        rw [reportedInEach, reportedInEach, hchild, filterRange_of_splitsRanges hsplit, ih hrest]
  case negation =>
    intro child other hsplits _
    exact reports_of_splitsRanges hsplits

theorem droppedConditions_of_splitsRanges {filter other : Filter}
    (h : filter.SplitsRanges other) :
    compiler.droppedConditions (some filter) = compiler.droppedConditions (some other) := by
  have hunits := h.normalizeUnits
  rw [droppedConditions, droppedConditions, reports_reportedRange, reports_reportedRange,
    filterRange_of_splitsRanges hunits, reports_of_splitsRanges hunits]

theorem log_of_splitsRanges {filter other : Filter} (h : filter.SplitsRanges other) :
    compiler.log { query with filter := some filter } =
      compiler.log { query with filter := some other } :=
  log_of_filter (stageParameters_of_splitsRanges h) (reportedIn_of_splitsRanges h.normalizeUnits)

/-- A query is compiled to the same parameters, or with the same error, and with the same
warnings, whichever of its ranges are written as two comparisons. -/
theorem compile_of_splitsRanges (compiler : Compiler) (query : Query) {filter other : Filter}
    (h : filter.SplitsRanges other) :
    compiler.compile { query with filter := some filter } =
        compiler.compile { query with filter := some other } ∧
      compiler.warnings { query with filter := some filter } =
        compiler.warnings { query with filter := some other } ∧
      compiler.log { query with filter := some filter } =
        compiler.log { query with filter := some other } := by
  refine ⟨compile_congr rfl (stageParameters_of_splitsRanges h), ?_, log_of_splitsRanges h⟩
  rw [warnings, warnings, droppedConditions_of_splitsRanges h]
  rfl

/-- Two of three ranges written as comparisons: a date range, and one under a negation. -/
theorem compile_of_splitsRanges_nested :
    let date : Field := .bucketed (.id 7) .month
    let depth : Field := .plain (.literal "ga:pageDepth")
    let number : Int → Operand := fun value => .literal (.int value) none
    let dates : Filter := .condition (.between date (.relative (-7) .day) (.relative (-1) .day))
    let deep : Filter := .condition (.between depth (number 3) (number 5))
    let filter : Filter := .junction .and [dates, .junction .or [.negation deep, deep]]
    let other : Filter := .junction .and
      [.bothBounds date (.relative (-7) .day) (.relative (-1) .day),
        .junction .or [.negation (.bothBounds depth (number 3) (number 5)), deep]]
    let query : Query :=
      { sourceTable := .number 1, aggregations := [.metric (.name "ga:hits")], breakout := []
        filter := none, orders := [], limit := some 20000 }
    let compiler : Compiler :=
      { bare with metadata := Metadata.provider { tables := [(.number 1, "123")] } }
    filter.SplitsRanges other ∧
      compiler.compile { query with filter := some filter } =
        compiler.compile { query with filter := some other } ∧
      compiler.warnings { query with filter := some filter } =
        compiler.warnings { query with filter := some other } ∧
      compiler.log { query with filter := some filter } =
        compiler.log { query with filter := some other } := by
  intro date depth number dates deep filter other query compiler
  have hsplits : filter.SplitsRanges other :=
    .junction .and (.cons (.range date (.relative (-7) .day) (.relative (-1) .day))
      (.cons (.junction .or (.cons (.negation (.range depth (number 3) (number 5)))
        (.cons (.condition _) .nil))) .nil))
  exact ⟨hsplits, compile_of_splitsRanges compiler query hsplits⟩

end Compiler

end AnalyticsQuery
