import AnalyticsQuery.Calendar.Zone.Yearly
import AnalyticsQuery.Proofs.Calendar.Years
import AnalyticsQuery.Proofs.Compile.Agreement
import AnalyticsQuery.Proofs.Filter.Related

/-!
# Moments and their notation

The same moment may be written with any offset from universal time, or without one if it is
read off the clocks of the report's zone.  Every timestamp is read on those clocks before
anything else is done with it, so that a compilation does not tell such notations apart.
-/

namespace AnalyticsQuery

open Calendar (CalendarUnit TimeRelation Timestamp WallTime ZonedTime Zone)
open Fallible

/-! ## Timestamps -/

namespace Calendar

/-- Notations of one moment, where reports are made in a zone. -/
inductive Timestamp.SameMoment (zone : Zone) : Timestamp → Timestamp → Prop
  | refl (timestamp : Timestamp) : SameMoment zone timestamp timestamp
  | symm {left right : Timestamp} : SameMoment zone left right → SameMoment zone right left
  | trans {first second third : Timestamp} : SameMoment zone first second →
      SameMoment zone second third → SameMoment zone first third
  /-- Of a time with an offset, only the instant in universal time matters. -/
  | instant {left right : ZonedTime} (h : left.universal = right.universal) :
      SameMoment zone (.zoned left) (.zoned right)
  /-- A time without an offset has that of the zone when its clocks show the time. -/
  | attached {instant time : WallTime}
      (h : zone.reading instant.microseconds = time.microseconds) :
      SameMoment zone (.naive time)
        (.zoned ⟨time, zone.offsetAt instant.microseconds * microsecondsPerSecond⟩)
  | midnight (date : Date) : SameMoment zone (.day date) (.naive (WallTime.midnight date))

theorem ZonedTime.instant_eq (moment : ZonedTime) :
    moment.instant = WallTime.ofMicroseconds moment.universal := rfl

theorem ZonedTime.universal_attached {zone : Zone} {instant time : WallTime}
    (h : zone.reading instant.microseconds = time.microseconds) :
    universal ⟨time, zone.offsetAt instant.microseconds * microsecondsPerSecond⟩ =
      instant.microseconds := by
  rw [universal, ← h, Zone.reading, Int.add_sub_cancel]

/-- Notations of one moment are read alike on the clocks of the zone, errors included. -/
theorem Timestamp.SameMoment.inZone_eq {zone : Zone} {left right : Timestamp}
    (h : left.SameMoment zone right) : left.inZone zone = right.inZone zone := by
  induction h with
  | refl timestamp => rfl
  | symm _ ih => exact ih.symm
  | trans _ _ ihfirst ihsecond => exact ihfirst.trans ihsecond
  | instant h => rw [inZone, inZone, ZonedTime.inZone, ZonedTime.inZone, ZonedTime.instant_eq,
      ZonedTime.instant_eq, h]
  | @attached instant time h =>
      -- the offset leads back to the instant at which the clocks show the time
      have hreading : ZonedTime.inZone
          ⟨time, zone.offsetAt instant.microseconds * microsecondsPerSecond⟩ zone = .ok time := by
        rw [ZonedTime.inZone_eq_ok_iff, ZonedTime.universal_attached h]
        exact ⟨instant.inYears, h.symm⟩
      exact hreading.symm
  | midnight date => rfl

end Calendar

/-! ## Filters -/

/-- Operands that are equal, or the same moment with the same unit. -/
inductive Operand.SameMoment (zone : Zone) : Operand → Operand → Prop
  | refl (operand : Operand) : SameMoment zone operand operand
  | absolute (unit : CalendarUnit) {left right : Timestamp} (h : left.SameMoment zone right) :
      SameMoment zone (.absolute left unit) (.absolute right unit)

/-- Conditions that differ only in how they write the moments that they compare with. -/
inductive Condition.SameMoments (zone : Zone) : Condition → Condition → Prop
  | comparison (operator : Comparison) (field : Field) {value other : Operand}
      (h : value.SameMoment zone other) :
      SameMoments zone (.comparison operator field value) (.comparison operator field other)
  | between (field : Field) {lower otherLower upper otherUpper : Operand}
      (hlower : lower.SameMoment zone otherLower) (hupper : upper.SameMoment zone otherUpper) :
      SameMoments zone (.between field lower upper) (.between field otherLower otherUpper)
  | textMatch (operator : TextMatch) (field : Field) (caseSensitive : Bool)
      {value other : Operand} (h : value.SameMoment zone other) :
      SameMoments zone (.textMatch operator field value caseSensitive)
        (.textMatch operator field other caseSensitive)
  | segment (id : Identifier) : SameMoments zone (.segment id) (.segment id)

/-- Filters that differ only in how they write the moments that they compare with. -/
def Filter.SameMoments (zone : Zone) : Filter → Filter → Prop :=
  Filter.Related (Condition.SameMoments zone)

namespace Compiler

variable {compiler : Compiler}

/-! ## Conditions in each other's place -/

/-- Conditions that a compilation does not tell apart. -/
structure Interchanges (compiler : Compiler) (leaf other : Condition) : Prop where
  clauses : compiler.clauseTexts leaf = compiler.clauseTexts other
  range : compiler.conditionRange leaf = compiler.conditionRange other
  isDateRange : leaf.isDateRange = other.isDateRange
  onBucketedField : leaf.onBucketedField = other.onBucketedField
  isBuiltinSegment : leaf.isBuiltinSegment = other.isBuiltinSegment
  segments : (Filter.condition leaf).segmentIds = (Filter.condition other).segmentIds

section Related

variable {filter other : Filter} (h : filter.Related compiler.Interchanges other)

include h

theorem filterText_of_related : compiler.filterText filter = compiler.filterText other := by
  refine h.relatedInduction ?condition ?junction ?negation
  case condition =>
    intro leaf partner hleaf
    rw [filterText, filterText, conditionText, conditionText, hleaf.clauses]
  case junction =>
    intro operator children others _ hchildren
    rw [filterText_junction, filterText_junction, mapM_eq_of_forall₂ hchildren]
  case negation =>
    intro child partner _ hchild
    rw [filterText_negation, filterText_negation, hchild]

theorem filterRange_of_related : compiler.filterRange filter = compiler.filterRange other := by
  refine h.relatedInduction ?condition ?junction ?negation
  case condition => exact fun leaf partner hleaf => hleaf.range
  case junction =>
    intro operator children others _ hchildren
    rw [filterRange_junction, filterRange_junction, mapM_eq_of_forall₂ hchildren]
  case negation =>
    intro child partner hrelated _
    have hdates := hrelated.map_leaves fun _ _ hleaf => hleaf.isDateRange
    have hany (filter : Filter) : filter.leaves.any Condition.isDateRange =
        (filter.leaves.map Condition.isDateRange).any id := by
      rw [List.any_map]
      rfl
    rw [filterRange, filterRange, hany, hany, hdates]

theorem requestFilter_of_related :
    compiler.requestFilter (some filter) = compiler.requestFilter (some other) := by
  refine requestFilter_of_rel filterText_of_related (h.prune fun leaf partner hleaf => ?_)
  rw [hleaf.onBucketedField, hleaf.isBuiltinSegment]

theorem segment_of_related : Filter.segment (some filter) = Filter.segment (some other) := by
  have hids := h.map_leaves fun _ _ hleaf => hleaf.segments
  have hflat (filter : Filter) : filter.segmentIds =
      (filter.leaves.map fun leaf => (Filter.condition leaf).segmentIds).flatten := by
    rw [Filter.segmentIds, List.filterMap_eq_flatMap_toList, List.flatMap_def]
    rfl
  rw [Filter.segment, Filter.segment, Option.elim_some, Option.elim_some, Filter.builtinSegments,
    Filter.builtinSegments, hflat, hflat other, hids]

/-- Conditions that are not told apart may stand in each other's place anywhere. -/
theorem compile_of_related (query : Query) :
    compiler.compile { query with filter := some filter } =
      compiler.compile { query with filter := some other } := by
  have hrange : compiler.dateRange (some filter) = compiler.dateRange (some other) := by
    rw [dateRange_eq_map, dateRange_eq_map, Option.elim_some, Option.elim_some,
      filterRange_of_related h]
  exact compile_congr rfl (stageParameters_of_filter hrange (requestFilter_of_related h)
    (segment_of_related h))

end Related

/-! ## Moments -/

theorem operandText_of_sameMoment {value other : Operand}
    (h : value.SameMoment compiler.config.zone other) :
    compiler.operandText value = compiler.operandText other := by
  cases h with
  | refl => rfl
  | absolute unit h => rw [operandText, operandText, h.inZone_eq]

theorem operandBounds_of_sameMoment {value other : Operand}
    (h : value.SameMoment compiler.config.zone other) (relation : TimeRelation)
    (unit : CalendarUnit) :
    compiler.operandBounds relation unit value = compiler.operandBounds relation unit other := by
  cases h with
  | refl => rfl
  | absolute valueUnit h => rw [operandBounds, operandBounds, h.inZone_eq]

theorem clauseTexts_of_sameMoments {leaf other : Condition}
    (h : leaf.SameMoments compiler.config.zone other) :
    compiler.clauseTexts leaf = compiler.clauseTexts other := by
  cases h with
  | comparison operator field h => rw [clauseTexts, clauseTexts, operandText_of_sameMoment h]
  | between field hlower hupper =>
      rw [clauseTexts, clauseTexts, operandText_of_sameMoment hlower,
        operandText_of_sameMoment hupper]
  | textMatch operator field caseSensitive h =>
      rw [clauseTexts, clauseTexts, operandText_of_sameMoment h]
  | segment id => rfl

theorem conditionRange_of_sameMoments {leaf other : Condition}
    (h : leaf.SameMoments compiler.config.zone other) :
    compiler.conditionRange leaf = compiler.conditionRange other := by
  cases h with
  | comparison operator field h =>
      cases field with
      | plain field => rfl
      | bucketed field unit =>
          simp only [conditionRange, conditionBounds, operandBounds_of_sameMoment h]
  | between field hlower hupper =>
      cases field with
      | plain field => rfl
      | bucketed field unit =>
          simp only [conditionRange, conditionBounds, operandBounds_of_sameMoment hlower,
            operandBounds_of_sameMoment hupper]
  | textMatch operator field caseSensitive h => rfl
  | segment id => rfl

/-- How a condition writes its moments changes nothing that is made of it. -/
theorem interchanges_of_sameMoments {leaf other : Condition}
    (h : leaf.SameMoments compiler.config.zone other) : compiler.Interchanges leaf other where
  clauses := clauseTexts_of_sameMoments h
  range := conditionRange_of_sameMoments h
  isDateRange := by cases h <;> rfl
  onBucketedField := by cases h <;> rfl
  isBuiltinSegment := by cases h <;> rfl
  segments := by cases h <;> rfl

/-- A query is compiled to the same parameters, or with the same error, however its filter
writes the moments that it compares with: with any offset from universal time, or as the
clocks of the report's zone show them. -/
theorem compile_of_sameMoments (compiler : Compiler) (query : Query) {filter other : Filter}
    (h : filter.SameMoments compiler.config.zone other) :
    compiler.compile { query with filter := some filter } =
      compiler.compile { query with filter := some other } :=
  compile_of_related (h.imp fun _ _ => interchanges_of_sameMoments) query

/-- Half past midnight in Madrid, when it was still the month before in universal time. -/
theorem compile_of_sameMoments_madrid :
    let compiler : Compiler :=
      { bare with config := { zone := .madrid }
                  metadata := Metadata.provider { tables := [(.number 1, "123")] } }
    let midnight : WallTime := ⟨63729160200000000, by decide⟩
    let evening : WallTime := ⟨63729153000000000, by decide⟩
    let filter (start stop : Timestamp) : Filter := .junction .and
      [.condition (.comparison .atLeast (.bucketed (.id 7) .month) (.absolute start .day)),
        .negation (.condition (.comparison .equal (.plain (.literal "ga:dimension1"))
          (.absolute stop .day)))]
    let query : Query :=
      { sourceTable := .number 1, aggregations := [.metric (.name "ga:hits")], breakout := []
        filter := none, orders := [], limit := none }
    let written := filter (.naive midnight) (.zoned ⟨evening, 0⟩)
    let other := filter (.zoned ⟨midnight, 7200000000⟩) (.zoned ⟨midnight, 7200000000⟩)
    written.SameMoments compiler.config.zone other ∧
      compiler.requestFilter (some written) = .ok (some "!ga:dimension1==2020-07-01") ∧
      compiler.dateRange (some written) = .ok ⟨some "2020-07-01", none⟩ ∧
      compiler.compile { query with filter := some written } =
        compiler.compile { query with filter := some other } := by
  intro compiler midnight evening filter query written other
  have hclocks : Zone.madrid.reading evening.microseconds = midnight.microseconds := by
    decide +kernel
  have hstart : (Timestamp.naive midnight).SameMoment .madrid (.zoned ⟨midnight, 7200000000⟩) :=
    .attached hclocks
  have hstop : (Timestamp.zoned ⟨evening, 0⟩).SameMoment .madrid (.zoned ⟨midnight, 7200000000⟩) :=
    .instant (by decide)
  have hsame : written.SameMoments compiler.config.zone other :=
    .junction .and (.cons (.condition (.comparison _ _ (.absolute _ hstart)))
      (.cons (.negation (.condition (.comparison _ _ (.absolute _ hstop)))) .nil))
  exact ⟨hsame, by decide +kernel, by decide +kernel, compile_of_sameMoments compiler query hsame⟩

end Compiler

end AnalyticsQuery
