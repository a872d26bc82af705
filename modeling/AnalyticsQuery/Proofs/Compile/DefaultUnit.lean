import AnalyticsQuery.Proofs.Compile.Agreement
import AnalyticsQuery.Proofs.Compile.Log

/-!
# The default unit

Days stand for the default unit.  Only the walk for the date range replaces it; names,
values and buckets are computed from the units as they are given.  None of them tells
the default unit from days, so nothing that is made of a filter does.
-/

namespace AnalyticsQuery

open Calendar (WallTime)

@[simp]
theorem Field.base_normalizeUnit (field : Field) : field.normalizeUnit.base = field.base := by
  cases field <;> rfl

namespace Filter

theorem segmentIds_normalizeUnits (filter : Filter) :
    filter.normalizeUnits.segmentIds = filter.segmentIds := by
  rw [segmentIds, leaves_normalizeUnits, List.filterMap_map, segmentIds]
  congr 1
  funext leaf
  cases leaf <;> rfl

theorem segment_normalizeUnits (filter : Filter) :
    segment (some filter.normalizeUnits) = segment (some filter) := by
  rw [segment, segment, Option.elim_some, Option.elim_some, builtinSegments, builtinSegments,
    segmentIds_normalizeUnits]

end Filter

namespace Compiler

/-- That a compiler makes the same of two filters, errors included. -/
structure TreatsAlike (compiler : Compiler) (filter other : Filter) : Prop where
  dateRange : compiler.dateRange (some filter) = compiler.dateRange (some other)
  filterRange : compiler.filterRange filter = compiler.filterRange other
  filterText : compiler.filterText filter = compiler.filterText other
  requestFilter : compiler.requestFilter (some filter) = compiler.requestFilter (some other)
  segmentIds : filter.segmentIds = other.segmentIds
  segment : Filter.segment (some filter) = Filter.segment (some other)
  compile : ∀ query : Query, compiler.compile { query with filter := some filter } =
    compiler.compile { query with filter := some other }
  warnings : ∀ query : Query, compiler.warnings { query with filter := some filter } =
    compiler.warnings { query with filter := some other }
  log : ∀ query : Query, compiler.log { query with filter := some filter } =
    compiler.log { query with filter := some other }

variable {compiler : Compiler}

/-! ## Text -/

theorem fieldName_normalizeUnit (field : Field) :
    compiler.fieldName field.normalizeUnit = compiler.fieldName field := by
  rw [fieldName, fieldName, Field.base_normalizeUnit]

theorem operandText_normalizeUnit (operand : Operand) :
    compiler.operandText operand.normalizeUnit = compiler.operandText operand := by
  cases operand with
  | literal value typeInfo => rfl
  | relative amount unit =>
      rw [Operand.normalizeUnit, operandText, operandText, unit.normalize_normalize,
        relativeTime_normalize]
  | absolute timestamp unit =>
      have htruncate : ∀ time : WallTime, time.truncate unit.normalize = time.truncate unit :=
        WallTime.truncate_congr unit.granularity_normalize
      simp only [Operand.normalizeUnit, operandText, htruncate]

theorem clauseTexts_normalizeUnits (leaf : Condition) :
    compiler.clauseTexts leaf.normalizeUnits = compiler.clauseTexts leaf := by
  cases leaf with
  | comparison operator field value =>
      rw [Condition.normalizeUnits, clauseTexts, clauseTexts, fieldName_normalizeUnit,
        operandText_normalizeUnit]
  | between field lower upper =>
      rw [Condition.normalizeUnits, clauseTexts, clauseTexts, fieldName_normalizeUnit,
        operandText_normalizeUnit, operandText_normalizeUnit]
  | textMatch operator field value caseSensitive =>
      rw [Condition.normalizeUnits, clauseTexts, clauseTexts, fieldName_normalizeUnit,
        operandText_normalizeUnit]
  | segment id => rfl

theorem filterText_normalizeUnits (filter : Filter) :
    compiler.filterText filter.normalizeUnits = compiler.filterText filter :=
  filterText_mapConditions fun leaf _ => clauseTexts_normalizeUnits leaf

theorem requestFilter_normalizeUnits (filter : Filter) :
    compiler.requestFilter (some filter.normalizeUnits) = compiler.requestFilter (some filter) := by
  have htext : compiler.optionalFilterText filter.normalizeUnits.textHalf =
      compiler.optionalFilterText filter.textHalf := by
    rw [Filter.textHalf_normalizeUnits]
    cases filter.textHalf with
    | none => rfl
    | some half => exact filterText_normalizeUnits half
  rw [requestFilter, requestFilter, Option.bind_some, Option.bind_some, htext]

/-! ## Whole compilations -/

theorem dateRange_normalizeUnits (filter : Filter) :
    compiler.dateRange (some filter.normalizeUnits) = compiler.dateRange (some filter) := by
  rw [dateRange, dateRange, filter.normalizeUnits_normalizeUnits]

theorem treatsAlike_normalizeUnits (compiler : Compiler) (filter : Filter) :
    compiler.TreatsAlike filter.normalizeUnits filter := by
  have hstages : ∀ (query : Query) stage,
      compiler.stageParameters { query with filter := some filter.normalizeUnits } stage =
        compiler.stageParameters { query with filter := some filter } stage :=
    fun _ => stageParameters_of_filter (dateRange_normalizeUnits filter)
      (requestFilter_normalizeUnits filter) filter.segment_normalizeUnits
  constructor
  case dateRange => exact dateRange_normalizeUnits filter
  case filterRange => exact filterRange_normalizeUnits filter
  case filterText => exact filterText_normalizeUnits filter
  case requestFilter => exact requestFilter_normalizeUnits filter
  case segmentIds => exact filter.segmentIds_normalizeUnits
  case segment => exact filter.segment_normalizeUnits
  case compile => exact fun query => compile_congr rfl (hstages query)
  case warnings =>
    intro query
    rw [warnings, warnings, droppedConditions, droppedConditions,
      filter.normalizeUnits_normalizeUnits]
    rfl
  case log =>
    intro query
    apply log_of_filter (hstages query)
    rw [filter.normalizeUnits_normalizeUnits]

/-- Normalizing replaces the default unit and keeps all else of a filter, and no one can tell:
the filter is read as it was, in whole and in its halves. -/
theorem compile_of_default_units (compiler : Compiler) (filter : Filter) :
    filter.NormalizesTo filter.normalizeUnits ∧
      filter.normalizeUnits.textHalf = filter.textHalf.map Filter.normalizeUnits ∧
      filter.normalizeUnits.dateHalf = filter.dateHalf.map Filter.normalizeUnits ∧
      compiler.TreatsAlike filter.normalizeUnits filter :=
  ⟨filter.normalizesTo_normalizeUnits, filter.textHalf_normalizeUnits,
    filter.dateHalf_normalizeUnits, treatsAlike_normalizeUnits compiler filter⟩

end Compiler

end AnalyticsQuery
