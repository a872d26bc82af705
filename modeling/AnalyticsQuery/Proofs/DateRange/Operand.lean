import AnalyticsQuery.Proofs.DateRange.Days
import AnalyticsQuery.Proofs.DateRange.Extraction

/-!
# Days of an operand

A comparison with a moment gives the days that compare with the bucket of that moment.
When it is written by counting days back from today, the bucket is the day of the moment,
whatever the unit of the field.
-/

namespace AnalyticsQuery

open Calendar (Bounds CalendarUnit Granularity TimeRelation WallTime Zone
  microsecondsPerDay)
open Fallible

namespace Calendar

@[simp]
theorem CalendarUnit.granularity_normalize (unit : CalendarUnit) :
    unit.normalize.granularity = unit.granularity := by
  cases unit <;> rfl

theorem CalendarUnit.granularity_of_normalize {unit : CalendarUnit} (h : unit.normalize = .day) :
    unit.granularity = .day := by
  rw [← unit.granularity_normalize, h]
  rfl

theorem TimeRelation.restrict_restrict {α : Type} (relation : TimeRelation) (bounds : Bounds α) :
    relation.restrict (relation.restrict bounds) = relation.restrict bounds := by
  cases relation <;> rfl

theorem TimeRelation.restrict_map {α β : Type} (relation : TimeRelation) (f : α → β)
    (bounds : Bounds α) : relation.restrict (bounds.map f) = (relation.restrict bounds).map f := by
  cases relation <;> rfl

/-- A calendar computation depends on no more of a unit than its granularity. -/
theorem WallTime.truncate_congr {unit other : CalendarUnit}
    (h : unit.granularity = other.granularity) (time : WallTime) :
    time.truncate unit = time.truncate other := by
  rw [truncate, truncate, h]

theorem WallTime.comparisonDays_normalize (time : WallTime) (unit : CalendarUnit)
    (relation : TimeRelation) :
    time.comparisonDays unit.normalize relation = time.comparisonDays unit relation := by
  cases unit <;> rfl

end Calendar

/-- The latest day, counted from today, from which a relation can take a bound in the past.
Bounds are inclusive, so a strict comparison takes the day before or after. -/
def Calendar.TimeRelation.latestDay : TimeRelation → Int
  | before => 1
  | notAfter => 0
  | after => -1
  | notBefore => 0
  | within => 0

/-- Days up to the latest one have bounds that are counted back, and no others do. -/
theorem relativeDayBounds?_isSome_iff {relation : TimeRelation} {offset : Int} :
    (relativeDayBounds? relation offset).isSome ↔ offset ≤ relation.latestDay := by
  cases relation <;> simp [relativeDayBounds?, TimeRelation.latestDay]
  omega

/-- A count of days is written on every side that a relation sets, if it can be. -/
theorem writableBounds_daysAgo (relation : TimeRelation) (count : Nat) :
    writableBounds (relation.restrict ⟨some (.daysAgo count), some (.daysAgo count)⟩) =
      if Numeral.isLong count = true then .error .longNumber
      else .ok (relation.restrict ⟨some (.daysAgo count), some (.daysAgo count)⟩) := by
  cases relation <;> simp [writableBounds, TimeRelation.restrict, DayBound.isLong]

/-- Days are counted from today, up to one day further than the offset says. -/
theorem exists_count_of_relativeDayBounds? {relation : TimeRelation} {offset : Int}
    {bounds : Bounds DayBound} (h : relativeDayBounds? relation offset = some bounds) :
    ∃ count : Nat, bounds = relation.restrict ⟨some (.daysAgo count), some (.daysAgo count)⟩ ∧
      (count ≤ offset.natAbs ∨ count ≤ (offset - 1).natAbs) := by
  cases relation <;>
    simp only [relativeDayBounds?, Option.ite_none_left_eq_some, Option.some.injEq] at h <;>
    obtain ⟨hpast, rfl⟩ := h <;>
    refine ⟨_, rfl, ?_⟩ <;>
    omega

namespace Operand

/-- The instant that an operand means on the clocks of a zone: a number of units after the
beginning of the one that contains `now`, or that of a timestamp. -/
def moment? (now : WallTime) (zone : Zone) : Operand → Option Int
  | literal _ _ => none
  | relative amount unit =>
      some (unit.granularity.start (unit.granularity.index now.microseconds + amount))
  | absolute timestamp _ => (timestamp.inZone zone).toOption.map WallTime.microseconds

/-- Whether a comparison with an operand is written by counting days back from today. -/
def isCounted (relation : TimeRelation) : Operand → Bool
  | literal _ _ => false
  | relative amount unit => unit.normalize = .day && (relativeDayBounds? relation amount).isSome
  | absolute _ _ => false

theorem isCounted_relative_iff {relation : TimeRelation} {amount : Int} {unit : CalendarUnit} :
    (relative amount unit).isCounted relation = true ↔
      unit.normalize = .day ∧ amount ≤ relation.latestDay := by
  rw [isCounted, Bool.and_eq_true, decide_eq_true_iff, relativeDayBounds?_isSome_iff]

/-- The granularity of the buckets that a comparison on a bucketed field really compares. -/
def granularity (relation : TimeRelation) (unit : CalendarUnit) (operand : Operand) :
    Granularity :=
  if operand.isCounted relation then .day else unit.granularity

end Operand

/-- Counted days are those that compare with the day reached by counting. -/
theorem days_relativeDayBounds? {relation : TimeRelation} {offset : Int}
    {bounds : Bounds DayBound} (h : relativeDayBounds? relation offset = some bounds)
    (today : Int) :
    bounds.map (DayBound.day? today) =
      (relation.dayBounds ((today + offset) * microsecondsPerDay)
        ((today + offset + 1) * microsecondsPerDay)).map some := by
  have hbefore : ((today + offset) * microsecondsPerDay - 1) / microsecondsPerDay =
      today + offset - 1 := by
    simp only [microsecondsPerDay, Calendar.microsecondsPerHour, Calendar.microsecondsPerMinute]
    omega
  have hlast : ((today + offset + 1) * microsecondsPerDay - 1) / microsecondsPerDay =
      today + offset := by
    simp only [microsecondsPerDay, Calendar.microsecondsPerHour, Calendar.microsecondsPerMinute]
    omega
  have hfirst : ∀ day : Int, day * microsecondsPerDay / microsecondsPerDay = day :=
    fun day => Int.mul_ediv_cancel day (by decide)
  cases relation <;>
    simp only [relativeDayBounds?, Option.ite_none_left_eq_some, Option.some.injEq] at h <;>
    obtain ⟨hpast, rfl⟩ := h <;>
    simp only [TimeRelation.restrict, TimeRelation.dayBounds, Bounds.map, Option.map_some,
      Option.map_none, DayBound.day?, hbefore, hlast, hfirst, Bounds.mk.injEq, Option.some.injEq,
      true_and, and_true] <;>
    omega

namespace Compiler

variable {compiler : Compiler} {relation : TimeRelation} {unit : CalendarUnit}
  {operand : Operand} {bounds : Bounds DayBound} {now : WallTime} {moment : Int}

theorem microseconds_relativeTime {amount : Int} {time : WallTime} (hnow : compiler.now = .ok now)
    (h : compiler.relativeTime amount unit = .ok time) :
    time.microseconds =
      unit.granularity.start (unit.granularity.index now.microseconds + amount) := by
  rw [relativeTime, hnow] at h
  obtain ⟨_, hcurrent, hstep⟩ := bind_eq_ok_iff.1 h
  obtain rfl := Except.ok.inj hcurrent
  obtain ⟨start, hstart, hmoved⟩ := bind_eq_ok_iff.1 hstep
  rw [ofCalendar_eq_ok_iff] at hmoved
  have hfloor := WallTime.truncate_eq_ok_iff.1 (ofCalendar_eq_ok_iff.1 hstart)
  rw [Granularity.floor_eq_start] at hfloor
  exact WallTime.microseconds_add hfloor hmoved

theorem days_bucketBounds {time : WallTime} (h : bucketBounds relation unit time = .ok bounds)
    (today : Int) :
    bounds.map (DayBound.day? today) =
      (relation.dayBounds (unit.granularity.floor time.microseconds)
        (unit.granularity.next time.microseconds)).map some := by
  obtain ⟨dates, hdates, hbounds⟩ := bind_eq_ok_iff.1 h
  rw [← WallTime.days_comparisonDays (ofCalendar_eq_ok_iff.1 hdates), ← Except.ok.inj hbounds]
  simp only [Bounds.map, Option.map_map]
  rfl

/-- The bounds of a comparison are the days that compare with the bucket of the moment, or
with its day if they are counted. -/
theorem days_operandBounds (hnow : compiler.now = .ok now)
    (hmoment : operand.moment? now compiler.config.zone = some moment)
    (h : compiler.operandBounds relation unit operand = .ok bounds) :
    bounds.map (DayBound.day? now.day) =
      (relation.dayBounds ((operand.granularity relation unit).floor moment)
        ((operand.granularity relation unit).next moment)).map some := by
  cases operand with
  | literal value typeInfo => exact nomatch hmoment
  | absolute timestamp valueUnit =>
      obtain ⟨time, htime, hbounds⟩ := bind_eq_ok_iff.1 h
      rw [ofCalendar_eq_ok_iff] at htime
      rw [Operand.moment?, htime] at hmoment
      rw [← Option.some.inj hmoment]
      exact days_bucketBounds hbounds now.day
  | relative amount valueUnit =>
      rw [← Option.some.inj hmoment]
      rcases operandBounds_relative h with ⟨hday, hdays, _⟩ | ⟨hnone, time, htime, hbounds⟩
      · have hgranularity :
            (Operand.relative amount valueUnit).granularity relation unit = .day := by
          rw [Operand.granularity, Operand.isCounted, hday, hdays]
          rfl
        rw [hgranularity, CalendarUnit.granularity_of_normalize hday, Granularity.floor_start,
          Granularity.next_start]
        exact days_relativeDayBounds? hdays now.day
      · have hgranularity : (Operand.relative amount valueUnit).granularity relation unit =
            unit.granularity := by
          rw [Operand.granularity, Operand.isCounted]
          by_cases hday : valueUnit.normalize = .day
          · simp [hnone hday]
          · simp [hday]
        rw [hgranularity, ← microseconds_relativeTime hnow htime]
        exact days_bucketBounds hbounds now.day

/-! ## Ranges of single comparisons -/

theorem relativeTime_normalize (amount : Int) (unit : CalendarUnit) :
    compiler.relativeTime amount unit.normalize = compiler.relativeTime amount unit := by
  cases unit <;> rfl

theorem operandBounds_normalize (relation : TimeRelation) (unit : CalendarUnit)
    (operand : Operand) :
    compiler.operandBounds relation unit.normalize operand.normalizeUnit =
      compiler.operandBounds relation unit operand := by
  have hbucket : bucketBounds relation unit.normalize =
      bucketBounds relation unit := by
    funext time
    rw [bucketBounds, WallTime.comparisonDays_normalize]
    rfl
  cases operand with
  | literal value typeInfo => rfl
  | absolute timestamp valueUnit =>
      rw [Operand.normalizeUnit, operandBounds, hbucket]
      rfl
  | relative amount valueUnit =>
      rw [Operand.normalizeUnit, operandBounds, operandBounds, hbucket, relativeTime_normalize,
        CalendarUnit.normalize_normalize]

theorem conditionRange_comparison {operator : Comparison} {relation : TimeRelation}
    (hrelation : operator.timeRelation? = some relation) (field : PlainField)
    (unit : CalendarUnit) (value : Operand) :
    compiler.conditionRange (.comparison operator (.bucketed field unit) value) =
      (compiler.operandBounds relation unit value).map fun bounds =>
        some (DateRange.ofBounds bounds) := by
  simp only [conditionRange, conditionBounds, hrelation]
  cases compiler.operandBounds relation unit value <;> rfl

theorem conditionRange_normalizeUnits (leaf : Condition) :
    compiler.conditionRange leaf.normalizeUnits = compiler.conditionRange leaf := by
  cases leaf with
  | comparison operator field value =>
      cases field with
      | plain field => rfl
      | bucketed field unit =>
          simp only [Condition.normalizeUnits, Field.normalizeUnit, conditionRange,
            conditionBounds, operandBounds_normalize]
  | between field lower upper =>
      cases field with
      | plain field => rfl
      | bucketed field unit =>
          simp only [Condition.normalizeUnits, Field.normalizeUnit, conditionRange,
            conditionBounds, operandBounds_normalize]
  | textMatch operator field value caseSensitive => rfl
  | segment id => rfl

/-- The range of a single comparison is written from the bounds of its operand. -/
theorem exists_bounds_of_dateRange {operator : Comparison} {field : PlainField}
    {range : DateRange} (hrelation : operator.timeRelation? = some relation)
    (h : compiler.dateRange
      (some (.condition (.comparison operator (.bucketed field unit) operand))) = .ok range) :
    ∃ bounds, compiler.operandBounds relation unit operand = .ok bounds ∧
      range = DateRange.ofBounds bounds := by
  obtain ⟨result, hresult, rfl⟩ := dateRange_eq_ok_iff.1 h
  obtain ⟨implied, himplied, hrange⟩ := bind_eq_ok_iff.1 hresult
  change compiler.conditionBounds (.comparison operator (.bucketed field unit.normalize)
    operand.normalizeUnit) = .ok implied at himplied
  simp only [conditionBounds, hrelation, operandBounds_normalize] at himplied
  obtain ⟨bounds, hbounds, hsome⟩ := bind_eq_ok_iff.1 himplied
  rw [← Except.ok.inj hsome] at hrange
  refine ⟨bounds, hbounds, ?_⟩
  rw [← Except.ok.inj hrange]
  rfl

end Compiler

end AnalyticsQuery
