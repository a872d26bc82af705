import AnalyticsQuery.Proofs.DateRange.Operand

/-!
# Days that a comparison keeps

A day that matches a comparison only in part has to be kept.  It is, wherever the bucket of
the field is compared; counted days are compared as whole days, and those are all that is
asked for if the field is bucketed by days.
-/

namespace AnalyticsQuery

open Calendar (CalendarUnit Granularity TimeRelation WallTime Zone microsecondsPerDay)

namespace Calendar.TimeRelation

/-- How a day has to stand to another. -/
def Compares (relation : TimeRelation) (left right : Int) : Prop :=
  match relation with
  | before => left < right
  | notAfter => left ≤ right
  | after => right < left
  | notBefore => right ≤ left
  | within => left = right

/-- Whether all that stands to the instants from `first` up to `next` as asked for stands so
to those from `otherFirst` up to `otherNext`. -/
def Includes (relation : TimeRelation) (first next otherFirst otherNext : Int) : Prop :=
  match relation with
  | before => first ≤ otherFirst
  | notAfter => next ≤ otherNext
  | after => otherNext ≤ next
  | notBefore => otherFirst ≤ first
  | within => otherFirst ≤ first ∧ next ≤ otherNext

variable {relation : TimeRelation}

/-- The days that compare with a day are found by comparing days. -/
theorem contains_dayBounds_day (other day : Int) :
    (relation.dayBounds (Granularity.day.start other) (Granularity.day.start (other + 1))).Contains
      day ↔ relation.Compares day other := by
  cases relation <;>
    simp only [dayBounds, Compares, Bounds.contains_upper, Bounds.contains_lower,
      Bounds.contains_both, Granularity.start, microsecondsPerDay, microsecondsPerHour,
      microsecondsPerMinute] <;>
    omega

/-- The days that compare with a day are all those with an instant that is related to a
bucket exactly if the bucket does not reach beyond the day. -/
theorem forall_contains_day_iff {first next : Int} (hbucket : first < next) (other : Int) :
    (∀ instant, relation.Holds first next instant →
      (relation.dayBounds (Granularity.day.start other)
        (Granularity.day.start (other + 1))).Contains (instant / microsecondsPerDay)) ↔
      relation.Includes first next (Granularity.day.start other)
        (Granularity.day.start (other + 1)) := by
  simp only [contains_dayBounds_day]
  simp only [Granularity.start, microsecondsPerDay, microsecondsPerHour, microsecondsPerMinute]
  constructor
  · intro h
    cases relation with
    | before =>
        have hlast := h (first - 1) (Int.sub_one_lt_of_le le_rfl)
        simp only [Compares, Includes] at hlast ⊢
        omega
    | notAfter =>
        have hlast := h (next - 1) (Int.sub_one_lt_of_le le_rfl)
        simp only [Compares, Includes] at hlast ⊢
        omega
    | after =>
        have hfirst := h next (le_refl next)
        simp only [Compares, Includes] at hfirst ⊢
        omega
    | notBefore =>
        have hfirst := h first (le_refl first)
        simp only [Compares, Includes] at hfirst ⊢
        omega
    | within =>
        have hfirst := h first ⟨le_rfl, hbucket⟩
        have hlast := h (next - 1) ⟨Int.le_sub_one_of_lt hbucket, Int.sub_one_lt_of_le le_rfl⟩
        simp only [Compares, Includes] at hfirst hlast ⊢
        omega
  · intro h instant hholds
    cases relation <;> simp only [Compares, Includes, Holds] at h hholds ⊢ <;> omega

end Calendar.TimeRelation

namespace Compiler

variable {compiler : Compiler} {operator : Comparison} {relation : TimeRelation}
  {field : PlainField} {unit : CalendarUnit} {range : DateRange} {now : WallTime}

/-- The range of a comparison with a moment contains the days that compare with its bucket. -/
theorem contains_iff_dayBounds {operand : Operand} {moment : Int}
    (hrelation : operator.timeRelation? = some relation) (hnow : compiler.now = .ok now)
    (hmoment : operand.moment? now compiler.config.zone = some moment)
    (hrange : compiler.dateRange
      (some (.condition (.comparison operator (.bucketed field unit) operand))) = .ok range)
    (day : Int) :
    range.Contains now.day day ↔
      (relation.dayBounds ((operand.granularity relation unit).floor moment)
        ((operand.granularity relation unit).next moment)).Contains day := by
  obtain ⟨bounds, hbounds, rfl⟩ := exists_bounds_of_dateRange hrelation hrange
  exact DateRange.contains_ofBounds (days_operandBounds hnow hmoment hbounds) day

/-- No day that matches a comparison even in part is dropped, exactly if the days are not
counted back from today or the bucket of the field does not reach beyond the day counted. -/
theorem contains_matching_days_iff {operand : Operand} {moment : Int}
    (hrelation : operator.timeRelation? = some relation) (hnow : compiler.now = .ok now)
    (hmoment : operand.moment? now compiler.config.zone = some moment)
    (hrange : compiler.dateRange
      (some (.condition (.comparison operator (.bucketed field unit) operand))) = .ok range) :
    (∀ instant, relation.Holds (unit.granularity.floor moment) (unit.granularity.next moment)
        instant → range.Contains now.day (instant / microsecondsPerDay)) ↔
      (operand.isCounted relation = true →
        relation.Includes (unit.granularity.floor moment) (unit.granularity.next moment)
          (Granularity.day.floor moment) (Granularity.day.next moment)) := by
  have hbucket := unit.granularity.floor_lt_next moment
  simp only [contains_iff_dayBounds hrelation hnow hmoment hrange, Operand.granularity]
  cases hcounted : operand.isCounted relation with
  | false =>
      refine iff_of_true (fun instant hholds => ?_) fun h => absurd h Bool.false_ne_true
      exact (TimeRelation.contains_dayBounds_iff hbucket _).2 ⟨instant, rfl, hholds⟩
  | true =>
      rw [if_pos rfl, forall_prop_of_true rfl, Granularity.floor_eq_start .day]
      exact TimeRelation.forall_contains_day_iff hbucket _

/-- On 15 March 2026, at half past ten, the hours up to the first one of the day before are all
kept. -/
theorem contains_matching_days_hour :
    let compiler : Compiler := { bare with clock := ⟨⟨63909167400000000, by decide⟩, 0⟩ }
    let now : WallTime := ⟨63909167400000000, by decide⟩
    let yesterday : Operand := .relative (-1) .day
    let moment : Int := 739688 * microsecondsPerDay
    let range : DateRange := ⟨none, some "yesterday"⟩
    Comparison.atMost.timeRelation? = some .notAfter ∧ compiler.now = .ok now ∧
      yesterday.moment? now compiler.config.zone = some moment ∧
      compiler.dateRange (some (.condition (.comparison .atMost
        (.bucketed (.literal "ga:date") .hour) yesterday))) = .ok range ∧
      ∀ instant, instant < moment + Calendar.microsecondsPerHour →
        range.Contains now.day (instant / microsecondsPerDay) := by
  intro compiler now yesterday moment range
  have hnow : compiler.now = .ok now := by decide +kernel
  have hmoment : yesterday.moment? now compiler.config.zone = some moment := by decide +kernel
  have hrange : compiler.dateRange (some (.condition (.comparison .atMost
      (.bucketed (.literal "ga:date") .hour) yesterday))) = .ok range := by decide +kernel
  refine ⟨rfl, hnow, hmoment, hrange, ?_⟩
  refine (contains_matching_days_iff rfl hnow hmoment hrange).2 fun _ => ?_
  change CalendarUnit.hour.granularity.next moment ≤ Granularity.day.next moment
  decide +kernel

/-- At the same time, a day that matches in part is dropped: the morning of yesterday is after
the first hour of that day, but the range begins today. -/
theorem not_contains_morning :
    let compiler : Compiler := { bare with clock := ⟨⟨63909167400000000, by decide⟩, 0⟩ }
    let now : WallTime := ⟨63909167400000000, by decide⟩
    let yesterday : Operand := .relative (-1) .day
    let moment : Int := 739688 * microsecondsPerDay
    let morning : Int := moment + 10 * Calendar.microsecondsPerHour
    let range : DateRange := ⟨some "today", none⟩
    compiler.now = .ok now ∧ yesterday.moment? now compiler.config.zone = some moment ∧
      compiler.dateRange (some (.condition (.comparison .greater
        (.bucketed (.literal "ga:date") .hour) yesterday))) = .ok range ∧
      TimeRelation.after.Holds (CalendarUnit.hour.granularity.floor moment)
        (CalendarUnit.hour.granularity.next moment) morning ∧
      ¬range.Contains now.day (morning / microsecondsPerDay) := by
  intro compiler now yesterday moment morning range
  refine ⟨by decide +kernel, by decide +kernel, by decide +kernel, ?_, ?_⟩
  · change CalendarUnit.hour.granularity.next moment ≤ morning
    decide +kernel
  · rintro ⟨hfirst, _⟩
    obtain ⟨first, htoday, hle⟩ := hfirst "today" rfl
    obtain rfl := Option.some.inj htoday
    exact absurd hle (by decide +kernel)

/-- A comparison of a field bucketed by days with a number of days from today says what it
says. -/
theorem contains_iff_compares {offset : Int} {valueUnit : CalendarUnit}
    (hunit : unit.granularity = .day) (hvalue : valueUnit.normalize = .day)
    (hrelation : operator.timeRelation? = some relation) (hnow : compiler.now = .ok now)
    (hrange : compiler.dateRange (some (.condition (.comparison operator (.bucketed field unit)
      (.relative offset valueUnit)))) = .ok range) (day : Int) :
    range.Contains now.day day ↔ relation.Compares day (now.day + offset) := by
  have hgranularity : (Operand.relative offset valueUnit).granularity relation unit = .day := by
    rw [Operand.granularity, hunit, ite_self]
  rw [contains_iff_dayBounds hrelation hnow rfl hrange, hgranularity,
    CalendarUnit.granularity_of_normalize hvalue, Granularity.floor_start, Granularity.next_start]
  exact TimeRelation.contains_dayBounds_day _ _

/-- At the same time, a bound of tomorrow is written as a date, since it cannot be counted back
to. -/
theorem contains_iff_compares_tomorrow :
    let compiler : Compiler := { bare with clock := ⟨⟨63909167400000000, by decide⟩, 0⟩ }
    let now : WallTime := ⟨63909167400000000, by decide⟩
    let range : DateRange := ⟨none, some "2026-03-16"⟩
    CalendarUnit.dayOfWeek.granularity = .day ∧ CalendarUnit.default.normalize = .day ∧
      Comparison.atMost.timeRelation? = some .notAfter ∧ compiler.now = .ok now ∧
      compiler.dateRange (some (.condition (.comparison .atMost
        (.bucketed (.literal "ga:date") .dayOfWeek) (.relative 1 .default)))) = .ok range ∧
      ∀ day, range.Contains now.day day ↔ day ≤ now.day + 1 := by
  intro compiler now range
  have hnow : compiler.now = .ok now := by decide +kernel
  have hrange : compiler.dateRange (some (.condition (.comparison .atMost
      (.bucketed (.literal "ga:date") .dayOfWeek) (.relative 1 .default)))) = .ok range := by
    decide +kernel
  have hrelation : Comparison.atMost.timeRelation? = some .notAfter := rfl
  exact ⟨rfl, rfl, hrelation, hnow, hrange,
    contains_iff_compares rfl rfl hrelation hnow hrange⟩

end Compiler

end AnalyticsQuery
