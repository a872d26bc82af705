import AnalyticsQuery.Proofs.Compile.Accounting
import AnalyticsQuery.Proofs.DateRange.Operand

/-!
# Compilers that agree

A compilation asks a compiler for names, for clauses and for ranges of single conditions,
and for nothing else.  Two compilers that answer alike for the parts of a query therefore
compile it alike, to the same parameters or with the same error.
-/

namespace AnalyticsQuery

open Fallible

namespace Compiler

variable {compiler other : Compiler} {query : Query}

/-! ## Filters -/

/-- Conditions with the same clauses make the same text in each other's places. -/
theorem filterText_mapConditions {f : Condition → Condition} {filter : Filter}
    (h : ∀ leaf ∈ filter.leaves, compiler.clauseTexts (f leaf) = other.clauseTexts leaf) :
    compiler.filterText (filter.mapConditions f) = other.filterText filter := by
  induction filter using Filter.treeInduction with
  | condition leaf =>
      have hleaf := h leaf (List.mem_singleton_self leaf)
      rw [Filter.mapConditions_condition, filterText, filterText, conditionText, conditionText,
        hleaf]
  | junction operator children ih =>
      have hchildren : children.mapM (compiler.filterText ∘ Filter.mapConditions f) =
          children.mapM other.filterText := by
        apply mapM_congr
        intro child hchild
        exact ih child hchild fun leaf hleaf => h leaf (Filter.mem_leaves_junction hchild hleaf)
      rw [Filter.mapConditions_junction, filterText_junction, filterText_junction, List.mapM_map,
        hchildren]
  | negation child ih =>
      rw [Filter.mapConditions_negation, filterText_negation, filterText_negation, ih h]

theorem filterText_congr {filter : Filter}
    (h : ∀ leaf ∈ filter.leaves, compiler.clauseTexts leaf = other.clauseTexts leaf) :
    compiler.filterText filter = other.filterText filter :=
  calc
    compiler.filterText filter = compiler.filterText (filter.mapConditions id) := by
      rw [filter.mapConditions_id]
    _ = other.filterText filter := filterText_mapConditions h

theorem filterRange_congr {filter : Filter}
    (h : ∀ leaf ∈ filter.leaves, compiler.conditionRange leaf = other.conditionRange leaf) :
    compiler.filterRange filter = other.filterRange filter := by
  induction filter using Filter.treeInduction with
  | condition leaf => exact h leaf (List.mem_singleton_self leaf)
  | junction operator children ih =>
      have hchildren : children.mapM compiler.filterRange = children.mapM other.filterRange := by
        apply mapM_congr
        intro child hchild
        exact ih child hchild fun leaf hleaf => h leaf (Filter.mem_leaves_junction hchild hleaf)
      rw [filterRange_junction, filterRange_junction, hchildren]
  | negation child _ => rw [filterRange, filterRange]

/-- The default unit counts as days, whether it is replaced or not. -/
theorem filterRange_normalizeUnits (filter : Filter) :
    compiler.filterRange filter.normalizeUnits = compiler.filterRange filter := by
  have hsame : compiler.filterRange (filter.mapConditions Condition.normalizeUnits) =
      compiler.filterRange (filter.mapConditions id) :=
    filterRange_mapConditions conditionRange_normalizeUnits
      Condition.isDateRange_normalizeUnits filter
  rw [filter.mapConditions_id] at hsame
  exact hsame

/-- What a date range is made of, without units replaced. -/
theorem dateRange_eq_map (filter : Option Filter) :
    compiler.dateRange filter =
      (filter.elim (.ok none) compiler.filterRange).map (·.getD compiler.fullRange) := by
  cases filter with
  | none => rfl
  | some filter =>
      rw [dateRange, filterRange_normalizeUnits, Option.elim_some]
      cases compiler.filterRange filter <;> rfl

/-! ## Queries -/

/-- What two compilers have to answer alike for a query.  Fields that are bucketed, and
segments that are built in, have no clauses to agree on. -/
structure AgreesOn (compiler other : Compiler) (query : Query) : Prop where
  config : compiler.config = other.config
  table : compiler.tableName query.sourceTable = other.tableName query.sourceTable
  dimensions : ∀ field ∈ query.breakout, compiler.dimension field = other.dimension field
  targets : ∀ order ∈ query.orders,
    compiler.sortTarget query order.target = other.sortTarget query order.target
  ranges : ∀ leaf ∈ query.leaves, compiler.conditionRange leaf = other.conditionRange leaf
  clauses : ∀ leaf ∈ query.leaves, leaf.onBucketedField = false →
    leaf.isBuiltinSegment = false → compiler.clauseTexts leaf = other.clauseTexts leaf

namespace AgreesOn

variable (h : compiler.AgreesOn other query)

include h

theorem dateRange_eq : compiler.dateRange query.filter = other.dateRange query.filter := by
  have hfull : compiler.fullRange = other.fullRange := by
    rw [fullRange, fullRange, h.config]
  have hranges := h.ranges
  rw [Query.leaves] at hranges
  cases hfilter : query.filter with
  | none => exact congrArg Except.ok hfull
  | some filter =>
      rw [hfilter] at hranges
      rw [dateRange_eq_map, dateRange_eq_map, Option.elim_some, Option.elim_some,
        filterRange_congr hranges, hfull]

theorem requestFilter_eq :
    compiler.requestFilter query.filter = other.requestFilter query.filter := by
  have htext : compiler.optionalFilterText (query.filter.bind Filter.textHalf) =
      other.optionalFilterText (query.filter.bind Filter.textHalf) := by
    have hleaves : ∀ leaf ∈ (query.filter.bind Filter.textHalf).elim [] Filter.leaves,
        compiler.clauseTexts leaf = other.clauseTexts leaf := by
      intro leaf hleaf
      obtain ⟨hquery, hplain, hsegment⟩ := Filter.mem_leaves_textHalf.1 hleaf
      exact h.clauses leaf hquery hplain hsegment
    cases hhalf : query.filter.bind Filter.textHalf with
    | none => rfl
    | some half =>
        rw [hhalf] at hleaves
        exact filterText_congr hleaves
  rw [requestFilter, requestFilter, htext]

theorem stageParameters_eq (stage : Stage) :
    compiler.stageParameters query stage = other.stageParameters query stage := by
  cases stage with
  | sourceTable =>
      rw [stageParameters, stageParameters, sourceTableParameters, sourceTableParameters,
        h.table, h.config]
  | aggregation => rfl
  | breakout =>
      rw [stageParameters, stageParameters, breakoutParameters, breakoutParameters,
        mapM_congr h.dimensions]
  | dateRange =>
      rw [stageParameters, stageParameters, dateParameters, dateParameters, h.dateRange_eq,
        h.config]
  | filters =>
      rw [stageParameters, stageParameters, filterParameters, filterParameters,
        h.requestFilter_eq]
  | segment => rfl
  | orders =>
      have hkeys : ∀ order ∈ query.orders, compiler.sortKey query order =
          other.sortKey query order := by
        intro order horder
        rw [sortKey, sortKey, h.targets order horder]
      rw [stageParameters, stageParameters, orderParameters, orderParameters, mapM_congr hkeys]
  | limit =>
      rw [stageParameters, stageParameters, limitParameters, limitParameters, limitWarnings,
        limitWarnings, h.config]

theorem compile_eq : compiler.compile query = other.compile query :=
  compile_congr h.config h.stageParameters_eq

end AgreesOn

end Compiler

end AnalyticsQuery
