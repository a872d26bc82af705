import AnalyticsQuery.Calendar.Zone.Yearly
import AnalyticsQuery.Proofs.Calendar.Compared
import AnalyticsQuery.Proofs.DateRange.Operand

/-!
# Bounds and filter text of a moment

A moment is written in two places: as a bound of the date range and as a value in filter text.
Both count days back from today under the same condition, and both write down the first day of
a bucket otherwise.  For a field whose buckets are those of the moment's own unit they therefore
write the same text.
-/

namespace AnalyticsQuery

open Calendar (Bounds CalendarUnit Date Granularity TimeRelation WallTime microsecondsPerDay)
open Fallible

namespace Calendar

/-- Whether what is compared with a bucket may lie in the bucket. -/
def TimeRelation.isInclusive : TimeRelation → Bool
  | before => false
  | notAfter => true
  | after => false
  | notBefore => true
  | within => true

namespace WallTime

variable {time first last : WallTime} {unit : CalendarUnit} {relation : TimeRelation}
  {days : Bounds Date}

/-- A comparison that includes the bucket gives its first and its last day, or one of them. -/
theorem exists_bucket_of_comparisonDays (hinclusive : relation.isInclusive = true)
    (h : time.comparisonDays unit relation = .ok days) :
    ∃ first last, time.bucket unit = .ok (first, last) ∧
      days = relation.restrict ⟨some first.date, some last.date⟩ := by
  obtain ⟨⟨first, last⟩, hbucket, hdays⟩ := bind_eq_ok_iff.1 h
  refine ⟨first, last, hbucket, ?_⟩
  cases relation with
  | before => exact nomatch hinclusive
  | after => exact nomatch hinclusive
  | notAfter => exact (Except.ok.inj hdays).symm
  | notBefore => exact (Except.ok.inj hdays).symm
  | within => exact (Except.ok.inj hdays).symm

theorem truncate_of_bucket (h : time.bucket unit = .ok (first, last)) :
    time.truncate unit = .ok first :=
  truncate_eq_ok_iff.2 (microseconds_bucket h).1

/-- A bucket of one day ends on the day on which it begins. -/
theorem date_of_bucket (hday : unit.granularity = .day) (h : time.bucket unit = .ok (first, last)) :
    last.date = first.date := by
  obtain ⟨hfirst, hlast⟩ := microseconds_bucket h
  apply Date.day_injective
  change last.microseconds / microsecondsPerDay = first.microseconds / microsecondsPerDay
  rw [hfirst, hlast, hday]
  simp only [Granularity.floor, Granularity.next, Granularity.start, Granularity.index,
    microsecondsPerDay, microsecondsPerHour, microsecondsPerMinute]
  omega

end WallTime

end Calendar

namespace Compiler

variable {compiler : Compiler} {operator : Comparison} {relation : TimeRelation}
  {field : PlainField} {unit valueUnit : CalendarUnit} {operand : Operand}
  {bounds : Bounds DayBound} {range : DateRange}

/-- Days counted back are limited by the day that is counted, unless it is excluded. -/
theorem relativeDayBounds?_of_isInclusive (hinclusive : relation.isInclusive = true) (offset : Int) :
    relativeDayBounds? relation offset =
      if 0 < offset then none
      else some (relation.restrict
        ⟨some (.daysAgo (-offset).toNat), some (.daysAgo (-offset).toNat)⟩) := by
  cases relation with
  | before => exact nomatch hinclusive
  | after => exact nomatch hinclusive
  | notAfter => rfl
  | notBefore => rfl
  | within => rfl

/-- The bounds by buckets begin with the first day of the bucket; it is the only one if a bucket
is a day. -/
theorem exists_start_of_bucketBounds {time : WallTime} (hinclusive : relation.isInclusive = true)
    (h : bucketBounds relation unit time = .ok bounds) :
    ∃ start last, time.truncate unit = .ok start ∧
      bounds = relation.restrict ⟨some (.date start.date), some last⟩ ∧
      (unit.granularity = .day → last = .date start.date) := by
  obtain ⟨days, hdays, hbounds⟩ := bind_eq_ok_iff.1 h
  rw [ofCalendar_eq_ok_iff] at hdays
  obtain ⟨first, last, hbucket, rfl⟩ := WallTime.exists_bucket_of_comparisonDays hinclusive hdays
  refine ⟨first, .date last.date, WallTime.truncate_of_bucket hbucket, ?_, ?_⟩
  · rw [← Except.ok.inj hbounds, ← relation.restrict_map]
    rfl
  · intro hday
    rw [WallTime.date_of_bucket hday hbucket]

theorem truncate_relativeTime {amount : Int} {time : WallTime}
    (h : compiler.relativeTime amount unit = .ok time) : time.truncate unit = .ok time := by
  obtain ⟨now, hnow, _⟩ := bind_eq_ok_iff.1 h
  rw [WallTime.truncate_eq_ok_iff, microseconds_relativeTime hnow h, Granularity.floor_start]

/-- A moment is written as the first of the bounds that a comparison with it gives, if the field
and the moment have units with the same buckets and the comparison includes the bucket. -/
theorem exists_bound_of_operandBounds (hinclusive : relation.isInclusive = true)
    (hunit : operand.unit? = some valueUnit) (hsame : unit.granularity = valueUnit.granularity)
    (h : compiler.operandBounds relation unit operand = .ok bounds) :
    ∃ first last : DayBound, bounds = relation.restrict ⟨some first, some last⟩ ∧
      (unit.granularity = .day → last = first) ∧
      compiler.operandText operand = .ok first.toText := by
  cases operand with
  | literal value typeInfo => exact nomatch hunit
  | absolute timestamp timestampUnit =>
      obtain rfl := Option.some.inj hunit
      obtain ⟨time, htime, hbucket⟩ := bind_eq_ok_iff.1 h
      obtain ⟨start, last, hstart, hbounds, hday⟩ := exists_start_of_bucketBounds hinclusive hbucket
      refine ⟨.date start.date, last, hbounds, hday, ?_⟩
      rw [WallTime.truncate_congr hsame] at hstart
      rw [operandText, htime]
      change (ofCalendar (time.truncate timestampUnit) >>= _) = _
      rw [hstart]
      rfl
  | relative amount amountUnit =>
      obtain rfl := Option.some.inj hunit
      rw [operandText]
      have hdays := relativeDayBounds?_of_isInclusive hinclusive amount
      rcases operandBounds_relative h with ⟨hday, hcounted, hwritten⟩ | ⟨hnone, time, htime, hbucket⟩
      · obtain ⟨hpast, hbounds⟩ := Option.ite_none_left_eq_some.1 (hdays.symm.trans hcounted)
        obtain rfl := Option.some.inj hbounds
        have hshort : ¬Numeral.isLong (-amount).toNat = true := by
          intro hlong
          rw [writableBounds_daysAgo, if_pos hlong] at hwritten
          cases hwritten
        refine ⟨.daysAgo (-amount).toNat, .daysAgo (-amount).toNat, rfl, fun _ => rfl, ?_⟩
        rw [if_pos ⟨hday, not_lt.1 hpast⟩, DayBound.daysAgoText?, if_neg hshort]
        rfl
      · have huncounted : ¬(amountUnit.normalize = .day ∧ amount ≤ 0) := by
          rintro ⟨hday, hpast⟩
          rw [hnone hday, if_neg (not_lt.2 hpast)] at hdays
          cases hdays
        obtain ⟨start, last, hstart, hbounds, hday⟩ :=
          exists_start_of_bucketBounds hinclusive hbucket
        refine ⟨.date start.date, last, hbounds, hday, ?_⟩
        rw [WallTime.truncate_congr hsame, truncate_relativeTime htime] at hstart
        rw [if_neg huncounted, htime, Except.ok.inj hstart]
        rfl

/-- A comparison that includes the bucket of a moment starts with the text that the moment has in
a filter, if it has a lower bound, and it ends with that text if it has an upper bound and goes by
days.  The buckets of the field have to be those of the unit of the moment. -/
theorem operandText_of_dateRange (hunit : operand.unit? = some valueUnit)
    (hsame : unit.granularity = valueUnit.granularity)
    (hoperator : operator ∈ [.equal, .atLeast, .atMost])
    (hrange : compiler.dateRange
      (some (.condition (.comparison operator (.bucketed field unit) operand))) = .ok range) :
    ∃ text, compiler.operandText operand = .ok text ∧
      (operator ≠ .atMost → range.first = some text) ∧
      (unit.granularity = .day → operator ≠ .atLeast → range.last = some text) := by
  have hinclusive : ∃ relation, operator.timeRelation? = some relation ∧
      relation.isInclusive = true := by
    simp only [List.mem_cons, List.not_mem_nil, or_false] at hoperator
    rcases hoperator with rfl | rfl | rfl
    · exact ⟨.within, rfl, rfl⟩
    · exact ⟨.notBefore, rfl, rfl⟩
    · exact ⟨.notAfter, rfl, rfl⟩
  obtain ⟨relation, hrelation, hinclusive⟩ := hinclusive
  obtain ⟨bounds, hbounds, rfl⟩ := exists_bounds_of_dateRange hrelation hrange
  obtain ⟨first, last, rfl, hday, htext⟩ :=
    exists_bound_of_operandBounds hinclusive hunit hsame hbounds
  refine ⟨first.toText, htext, ?_, ?_⟩
  · intro hlower
    cases operator with
    | equal => cases hrelation; rfl
    | atLeast => cases hrelation; rfl
    | atMost => exact absurd rfl hlower
    | _ => simp at hoperator
  · intro hunitDay hupper
    cases operator with
    | equal => cases hrelation; exact congrArg (some ·.toText) (hday hunitDay)
    | atLeast => exact absurd rfl hupper
    | atMost => cases hrelation; exact congrArg (some ·.toText) (hday hunitDay)
    | _ => simp at hoperator

/-- The evening of the 14th, four hours west of universal time, is the morning of the 15th in Tokyo, in a date range as
well as in a filter. -/
theorem operandText_of_dateRange_tokyo :
    let compiler : Compiler := { bare with config := { zone := .tokyo } }
    let evening : Operand := .absolute (.zoned ⟨⟨63909124200000000, by decide⟩, -14400000000⟩) .default
    let range : DateRange := ⟨some "2026-03-15", some "2026-03-15"⟩
    evening.unit? = some .default ∧
      CalendarUnit.dayOfMonth.granularity = CalendarUnit.default.granularity ∧
      Comparison.equal ∈ [Comparison.equal, .atLeast, .atMost] ∧
      compiler.dateRange (some (.condition (.comparison .equal
        (.bucketed (.literal "ga:date") .dayOfMonth) evening))) = .ok range ∧
      ∃ text, compiler.operandText evening = .ok text ∧ range.first = some text ∧
        range.last = some text := by
  intro compiler evening range
  have hunit : evening.unit? = some .default := rfl
  have hsame : CalendarUnit.dayOfMonth.granularity = CalendarUnit.default.granularity := rfl
  have hoperator : Comparison.equal ∈ [Comparison.equal, .atLeast, .atMost] := by decide
  have hrange : compiler.dateRange (some (.condition (.comparison .equal
      (.bucketed (.literal "ga:date") .dayOfMonth) evening))) = .ok range := by decide +kernel
  obtain ⟨text, htext, hfirst, hlast⟩ := operandText_of_dateRange hunit hsame hoperator hrange
  exact ⟨hunit, hsame, hoperator, hrange, text, htext, hfirst nofun, hlast rfl nofun⟩

end Compiler

end AnalyticsQuery
