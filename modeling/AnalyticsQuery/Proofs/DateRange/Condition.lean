import AnalyticsQuery.Compile.DateBounds
import AnalyticsQuery.Proofs.DateRange.Merge
import AnalyticsQuery.Proofs.Fallible
import AnalyticsQuery.Proofs.Filter.Units

/-!
# Ranges of single conditions

A condition of the date range has a range whenever its bounds can be computed, and
any other condition has none.  The range is limited at the ends that the operator says.
-/

namespace AnalyticsQuery

open Calendar (Bounds CalendarError CalendarUnit Date TimeRelation WallTime)
open DateRange (Side)
open Fallible

theorem ofCalendar_eq_ok_iff {α : Type} {result : Except CalendarError α} {value : α} :
    ofCalendar result = .ok value ↔ result = .ok value := by
  cases result with
  | error error => exact iff_of_false nofun nofun
  | ok other => exact ⟨fun h => congrArg _ (Except.ok.inj h), fun h => congrArg _ (Except.ok.inj h)⟩

/-- Whether days that compare in some way are limited at an end. -/
def Comparison.limits : Comparison → Side → Bool
  | equal, _ => true
  | notEqual, _ => false
  | less, side => side = .last
  | atMost, side => side = .last
  | greater, side => side = .first
  | atLeast, side => side = .first

/-- Whether a condition limits the date range at an end. -/
def Condition.limits : Condition → Side → Bool
  | comparison operator field _, side => field.isBucketed && operator.limits side
  | between field _ _, _ => field.isBucketed
  | textMatch .., _ => false
  | segment _, _ => false

@[simp]
theorem Condition.limits_normalizeUnits (leaf : Condition) (side : Side) :
    leaf.normalizeUnits.limits side = leaf.limits side := by
  cases leaf with
  | comparison operator field value => cases field <;> rfl
  | between field lower upper => cases field <;> rfl
  | textMatch operator field value caseSensitive => rfl
  | segment id => rfl

namespace Compiler

variable {compiler : Compiler} {leaf : Condition}

theorem conditionBounds_of_not_dateRange (h : leaf.isDateRange = false) :
    compiler.conditionBounds leaf = .ok none := by
  cases leaf with
  | comparison operator field value =>
      cases field with
      | plain field => rfl
      | bucketed field unit => cases operator <;> first | rfl | exact nomatch h
  | between field lower upper =>
      cases field with
      | plain field => rfl
      | bucketed field unit => exact nomatch h
  | textMatch operator field value caseSensitive => rfl
  | segment id => rfl

theorem conditionRange_of_not_dateRange (h : leaf.isDateRange = false) :
    compiler.conditionRange leaf = .ok none := by
  rw [conditionRange, conditionBounds_of_not_dateRange h]
  rfl

theorem conditionBounds_isSome (h : leaf.isDateRange = true)
    {bounds : Option (Calendar.Bounds DayBound)}
    (hbounds : compiler.conditionBounds leaf = .ok bounds) : bounds.isSome := by
  cases leaf with
  | comparison operator field value =>
      cases field with
      | plain field => exact nomatch h
      | bucketed field unit =>
          have hrelation : operator.timeRelation?.isSome := h
          obtain ⟨relation, hrelation⟩ := Option.isSome_iff_exists.1 hrelation
          simp only [conditionBounds, hrelation] at hbounds
          obtain ⟨_, _, hresult⟩ := bind_eq_ok_iff.1 hbounds
          rw [← Except.ok.inj hresult]
          rfl
  | between field lower upper =>
      cases field with
      | plain field => exact nomatch h
      | bucketed field unit =>
          obtain ⟨_, _, hupper⟩ := bind_eq_ok_iff.1 hbounds
          obtain ⟨_, _, hresult⟩ := bind_eq_ok_iff.1 hupper
          rw [← Except.ok.inj hresult]
          rfl
  | textMatch operator field value caseSensitive => simp [Condition.isDateRange] at h
  | segment id => exact nomatch h

theorem conditionRange_isSome (h : leaf.isDateRange = true) {range : Option DateRange}
    (hrange : compiler.conditionRange leaf = .ok range) : range.isSome := by
  obtain ⟨bounds, hbounds, hresult⟩ := bind_eq_ok_iff.1 hrange
  rw [← Except.ok.inj hresult, Option.isSome_map]
  exact conditionBounds_isSome h hbounds

/-! ## Ends that are limited -/

section Ends

variable {relation : TimeRelation} {unit : CalendarUnit} {operand : Operand}
  {bounds : Bounds DayBound}

theorem exists_restrict_of_comparisonDays {time : WallTime} {days : Bounds Date}
    (h : time.comparisonDays unit relation = .ok days) :
    ∃ first last, days = relation.restrict ⟨some first, some last⟩ := by
  obtain ⟨⟨first, last⟩, _, hdays⟩ := bind_eq_ok_iff.1 h
  cases relation with
  | before =>
      obtain ⟨before, _, hresult⟩ := bind_eq_ok_iff.1 hdays
      exact ⟨first.date, before.date, (Except.ok.inj hresult).symm⟩
  | notAfter => exact ⟨first.date, last.date, (Except.ok.inj hdays).symm⟩
  | after =>
      obtain ⟨after, _, hresult⟩ := bind_eq_ok_iff.1 hdays
      exact ⟨after.date, last.date, (Except.ok.inj hresult).symm⟩
  | notBefore => exact ⟨first.date, last.date, (Except.ok.inj hdays).symm⟩
  | within => exact ⟨first.date, last.date, (Except.ok.inj hdays).symm⟩

theorem exists_restrict_of_bucketBounds {time : WallTime}
    (h : bucketBounds relation unit time = .ok bounds) :
    ∃ first last, bounds = relation.restrict ⟨some first, some last⟩ := by
  obtain ⟨days, hdays, hbounds⟩ := bind_eq_ok_iff.1 h
  rw [ofCalendar_eq_ok_iff] at hdays
  obtain ⟨first, last, rfl⟩ := exists_restrict_of_comparisonDays hdays
  refine ⟨.date first, .date last, ?_⟩
  rw [← Except.ok.inj hbounds]
  cases relation <;> rfl

/-- A relative moment is compared by counting days back from today, or else by its bucket. -/
theorem operandBounds_relative {amount : Int} {valueUnit : CalendarUnit}
    (h : compiler.operandBounds relation unit (.relative amount valueUnit) = .ok bounds) :
    (valueUnit.normalize = .day ∧ relativeDayBounds? relation amount = some bounds ∧
        writableBounds bounds = .ok bounds) ∨
      ((valueUnit.normalize = .day → relativeDayBounds? relation amount = none) ∧
        ∃ time, compiler.relativeTime amount valueUnit = .ok time ∧
          bucketBounds relation unit time = .ok bounds) := by
  rw [operandBounds] at h
  cases hcounted : (if valueUnit.normalize = .day then relativeDayBounds? relation amount
    else none) with
  | some counted =>
      rw [hcounted] at h
      obtain ⟨hday, hdays⟩ := Option.ite_none_right_eq_some.1 hcounted
      obtain rfl := eq_of_writableBounds h
      exact .inl ⟨hday, hdays, h⟩
  | none =>
      rw [hcounted] at h
      exact .inr ⟨ite_eq_right_iff.1 hcounted, bind_eq_ok_iff.1 h⟩

/-- A comparison sets all the bounds that its relation asks for, whatever the operand is. -/
theorem exists_restrict_of_operandBounds
    (h : compiler.operandBounds relation unit operand = .ok bounds) :
    ∃ first last, bounds = relation.restrict ⟨some first, some last⟩ := by
  cases operand with
  | literal value typeInfo =>
      obtain ⟨text, _, hbounds⟩ := bind_eq_ok_iff.1 h
      exact ⟨.text text, .text text, (Except.ok.inj hbounds).symm⟩
  | absolute timestamp valueUnit =>
      obtain ⟨time, _, hbounds⟩ := bind_eq_ok_iff.1 h
      exact exists_restrict_of_bucketBounds hbounds
  | relative amount valueUnit =>
      rcases operandBounds_relative h with ⟨_, hcounted, _⟩ | ⟨_, time, _, hbounds⟩
      · obtain ⟨_, hrestricted⟩ := Option.ite_none_left_eq_some.1 hcounted
        exact ⟨_, _, (Option.some.inj hrestricted).symm⟩
      · exact exists_restrict_of_bucketBounds hbounds

/-- The range of a condition has bounds at the ends that the condition limits, and at no
others. -/
theorem isSome_bound_of_conditionRange {range : DateRange}
    (h : compiler.conditionRange leaf = .ok (some range)) (side : Side) :
    (range.bound side).isSome = leaf.limits side := by
  obtain ⟨implied, himplied, hrange⟩ := bind_eq_ok_iff.1 h
  obtain ⟨bounds, rfl, rfl⟩ := Option.map_eq_some_iff.1 (Except.ok.inj hrange)
  cases leaf with
  | comparison operator field value =>
      cases field with
      | plain field => exact nomatch Except.ok.inj himplied
      | bucketed field unit =>
          cases hrelation : operator.timeRelation? with
          | none =>
              simp only [conditionBounds, hrelation] at himplied
              exact nomatch Except.ok.inj himplied
          | some relation =>
              simp only [conditionBounds, hrelation] at himplied
              obtain ⟨found, hfound, hbounds⟩ := bind_eq_ok_iff.1 himplied
              obtain ⟨first, last, rfl⟩ := exists_restrict_of_operandBounds hfound
              rw [← Option.some.inj (Except.ok.inj hbounds)]
              cases operator <;> cases hrelation <;> cases side <;> rfl
  | between field lower upper =>
      cases field with
      | plain field => exact nomatch Except.ok.inj himplied
      | bucketed field unit =>
          obtain ⟨lowerBounds, hlower, hrest⟩ := bind_eq_ok_iff.1 himplied
          obtain ⟨upperBounds, hupper, hbounds⟩ := bind_eq_ok_iff.1 hrest
          obtain ⟨first, _, rfl⟩ := exists_restrict_of_operandBounds hlower
          obtain ⟨_, last, rfl⟩ := exists_restrict_of_operandBounds hupper
          rw [← Option.some.inj (Except.ok.inj hbounds)]
          cases side <;> rfl
  | textMatch operator field value caseSensitive => exact nomatch Except.ok.inj himplied
  | segment id => exact nomatch Except.ok.inj himplied

end Ends

end Compiler

end AnalyticsQuery
