import AnalyticsQuery.Proofs.Calendar.Truncation

/-!
# Days that compare with a bucket

A comparison with a bucket gives exactly the days that have an instant as asked for, and it
gives them unless the calendar ends with the bucket.  A bucket is found through the start of
the one after it, so in the last one even the days before its end are not found.
-/

namespace AnalyticsQuery.Calendar

open Fallible

theorem Date.day_injective : Function.Injective Date.day := by
  rintro ⟨day, _⟩ ⟨_, _⟩ rfl
  rfl

theorem Bounds.map_injective {α β : Type} {f : α → β} (hf : Function.Injective f) :
    Function.Injective (Bounds.map f) := by
  rintro ⟨lower, upper⟩ ⟨otherLower, otherUpper⟩ h
  obtain ⟨hlower, hupper⟩ := Bounds.mk.inj h
  obtain rfl : lower = otherLower := Option.map_injective hf hlower
  obtain rfl : upper = otherUpper := Option.map_injective hf hupper
  rfl

namespace WallTime

variable {time : WallTime} {unit : CalendarUnit} {relation : TimeRelation} {days : Bounds Date}

/-- The instants of a day of the calendar are times of the calendar. -/
theorem exists_time_iff {date : Date} {property : Int → Prop} :
    (∃ instant : Int, instant / microsecondsPerDay = date.day ∧ property instant) ↔
      ∃ instant : WallTime, instant.date = date ∧ property instant.microseconds := by
  constructor
  · rintro ⟨instant, hday, hproperty⟩
    have hrange : 0 ≤ instant ∧ instant < dayCount * microsecondsPerDay := by
      have hdate := date.inRange
      rw [← hday] at hdate
      simp only [microsecondsPerDay, microsecondsPerHour, microsecondsPerMinute, dayCount]
        at hdate ⊢
      omega
    exact ⟨⟨instant, hrange⟩, Date.day_injective hday, hproperty⟩
  · rintro ⟨instant, rfl, hproperty⟩
    exact ⟨instant.microseconds, rfl, hproperty⟩

/-- The days of a comparison are those with an instant that stands as asked for to the bucket of
the time: to the times from the last beginning of a bucket up to the next one.  A day that does
so in part is one of them. -/
theorem contains_comparisonDays_iff (h : time.comparisonDays unit relation = .ok days) :
    ∃ first next : WallTime,
      IsGreatest {other : WallTime | other.Begins unit.granularity ∧ other ≤ time} first ∧
      IsLeast {other : WallTime | other.Begins unit.granularity ∧ time < other} next ∧
      ∀ date : Date, (days.map Date.day).Contains date.day ↔
        ∃ instant : WallTime, instant.date = date ∧
          relation.Holds first.microseconds next.microseconds instant.microseconds := by
  obtain ⟨⟨first, last⟩, hbucket, _⟩ := bind_eq_ok_iff.1 h
  obtain ⟨hfirst, _, hyears⟩ := bucket_eq_ok_iff.1 hbucket
  obtain ⟨next, hnext⟩ := exists_ofMicroseconds_iff.2 hyears
  rw [ofMicroseconds_eq_ok_iff] at hnext
  refine ⟨first, next, isGreatest_of_floor hfirst, isLeast_of_next hnext, fun date => ?_⟩
  rw [days_comparisonDays h, ← hfirst, ← hnext, ← exists_time_iff]
  apply TimeRelation.contains_dayBounds_iff
  rw [hfirst, hnext]
  exact unit.granularity.floor_lt_next _

/-- February 2024 has 29 days. -/
theorem contains_comparisonDays_leap_month :
    let time : WallTime := ⟨63843578400000000, by decide⟩
    let days : Bounds Date := ⟨some ⟨738916, by decide⟩, some ⟨738944, by decide⟩⟩
    time.comparisonDays .monthOfYear .within = .ok days ∧
      ∃ first next : WallTime,
        IsGreatest {other : WallTime | other.Begins .month ∧ other ≤ time} first ∧
        IsLeast {other : WallTime | other.Begins .month ∧ time < other} next ∧
        ∀ date : Date, (days.map Date.day).Contains date.day ↔
          ∃ instant : WallTime, instant.date = date ∧ first.microseconds ≤ instant.microseconds ∧
            instant.microseconds < next.microseconds := by
  intro time days
  have hdays : time.comparisonDays .monthOfYear .within = .ok days := by decide +kernel
  exact ⟨hdays, contains_comparisonDays_iff hdays⟩

/-! ## Where the calendar ends -/

/-- A comparison comes by no instant outside the calendar if the bucket and the next one begin
in it, and so does the day before the bucket, in case that this is asked for. -/
theorem inYears_instants (hfirst : InYears (unit.granularity.floor time.microseconds))
    (hnext : InYears (unit.granularity.next time.microseconds))
    (hbefore : relation = .before → InYears (unit.granularity.floor time.microseconds - 1)) :
    ∀ instant ∈ relation.instants unit.granularity time.microseconds, InYears instant := by
  have hlast : InYears (unit.granularity.next time.microseconds - 1) := by
    have hlt := unit.granularity.floor_lt_next time.microseconds
    rw [inYears_iff] at hfirst hnext ⊢
    omega
  simp only [TimeRelation.instants, List.forall_mem_append, List.forall_mem_cons]
  refine ⟨⟨hfirst, hnext, hlast, List.forall_mem_nil _⟩, ?_⟩
  cases relation with
  | before => exact List.forall_mem_singleton.2 (hbefore rfl)
  | notAfter => exact List.forall_mem_nil _
  | after =>
      rw [List.forall_mem_singleton, Int.sub_add_cancel]
      exact hnext
  | notBefore => exact List.forall_mem_nil _
  | within => exact List.forall_mem_nil _

/-- If the bucket of a time begins in the calendar and the days that are asked for are days of
it, a comparison gives them exactly if some later bucket begins in the calendar. -/
theorem comparisonDays_eq_ok_iff (hstart : ∃ first, time.truncate unit = .ok first)
    (hdays : days.map Date.day = relation.dayBounds (unit.granularity.floor time.microseconds)
      (unit.granularity.next time.microseconds)) :
    time.comparisonDays unit relation = .ok days ↔
      ∃ later, time < later ∧ later.Begins unit.granularity := by
  rw [← inYears_next_iff]
  constructor
  · intro h
    obtain ⟨⟨first, last⟩, hbucket, _⟩ := bind_eq_ok_iff.1 h
    exact (bucket_eq_ok_iff.1 hbucket).2.2
  · intro hnext
    have hbefore : relation = .before →
        InYears (unit.granularity.floor time.microseconds - 1) := by
      rintro rfl
      obtain ⟨date, _, hdate⟩ := Option.map_eq_some_iff.1 (congrArg Bounds.upper hdays)
      rw [InYears, ← hdate]
      exact date.year_between
    have hinstants := inYears_instants (exists_truncate_iff.1 hstart) hnext hbefore
    obtain ⟨found, hfound⟩ := exists_comparisonDays_iff.2 hinstants
    have hsame := (days_comparisonDays hfound).trans hdays.symm
    rw [hfound, Bounds.map_injective Date.day_injective hsame]

/-- The last day but one is compared with, since a day begins after it. -/
theorem comparisonDays_last_day_but_one :
    let time : WallTime := .midnight ⟨3652057, by decide⟩
    let days : Bounds Date := ⟨some time.date, some time.date⟩
    (∃ first, time.truncate .day = .ok first) ∧
      days.map Date.day = TimeRelation.within.dayBounds (Granularity.day.floor time.microseconds)
        (Granularity.day.next time.microseconds) ∧
      time.comparisonDays .day .within = .ok days := by
  intro time days
  have hstart : ∃ first, time.truncate .day = .ok first := ⟨time, by decide +kernel⟩
  have hdays : days.map Date.day = TimeRelation.within.dayBounds
      (Granularity.day.floor time.microseconds) (Granularity.day.next time.microseconds) := by
    decide +kernel
  have hlater : ∃ later, time < later ∧ later.Begins CalendarUnit.day.granularity :=
    ⟨.midnight ⟨3652058, by decide⟩, by decide +kernel, by decide +kernel⟩
  exact ⟨hstart, hdays, (comparisonDays_eq_ok_iff hstart hdays).2 hlater⟩

/-- The last day is not: the days from it on begin with it, but it is not found, because the
next day is not. -/
theorem not_comparisonDays_last_day :
    let time : WallTime := .midnight ⟨3652058, by decide⟩
    let days : Bounds Date := ⟨some time.date, none⟩
    time.truncate .day = .ok time ∧
      days.map Date.day = TimeRelation.notBefore.dayBounds
        (Granularity.day.floor time.microseconds) (Granularity.day.next time.microseconds) ∧
      time.comparisonDays .day .notBefore = .error .overflow := by
  intro time days
  exact ⟨by decide +kernel, by decide +kernel, by decide +kernel⟩

end WallTime

end AnalyticsQuery.Calendar
