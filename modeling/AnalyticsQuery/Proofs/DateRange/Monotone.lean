import AnalyticsQuery.Proofs.DateRange.Operand

/-!
# Later moments and later bounds

A comparison with a later moment never moves a bound to an earlier day if both moments are
compared in the same way.  Days that are counted back from today are compared as whole days,
and from the first one that cannot be counted on, the buckets of the field are.  Right there a
bound can move back, to the beginning of a bucket that began before the days counted.
-/

namespace AnalyticsQuery

open Calendar (Bounds CalendarUnit Granularity TimeRelation WallTime microsecondsPerDay)

namespace Calendar

/-- Midnights are rounded down to midnights. -/
theorem Granularity.exists_floor_midnight (granularity : Granularity) (day : Int) :
    ∃ first, granularity.floor (Granularity.day.start day) = Granularity.day.start first := by
  cases granularity with
  | minute =>
      refine ⟨day, ?_⟩
      simp only [floor, start, microsecondsPerDay, microsecondsPerHour, microsecondsPerMinute]
      omega
  | hour =>
      refine ⟨day, ?_⟩
      simp only [floor, start, microsecondsPerDay, microsecondsPerHour, microsecondsPerMinute]
      omega
  | day => exact ⟨_, rfl⟩
  | week => exact ⟨_, rfl⟩
  | isoWeek => exact ⟨_, rfl⟩
  | month => exact ⟨_, rfl⟩
  | year => exact ⟨_, rfl⟩

/-- Whether bounds limit the same sides as others do, and on no side to a later day. -/
def Bounds.NotAfter (bounds others : Bounds Int) : Prop :=
  Option.Rel (· ≤ ·) bounds.lower others.lower ∧ Option.Rel (· ≤ ·) bounds.upper others.upper

namespace TimeRelation

variable {relation : TimeRelation}

/-- If a bucket begins and ends no later than another one, so do the days that compare with it. -/
theorem notAfter_dayBounds {first next otherFirst otherNext : Int} (hfirst : first ≤ otherFirst)
    (hnext : next ≤ otherNext) :
    (relation.dayBounds first next).NotAfter (relation.dayBounds otherFirst otherNext) := by
  have hday : ∀ {earlier later : Int}, earlier ≤ later →
      earlier / microsecondsPerDay ≤ later / microsecondsPerDay :=
    fun hle => Int.ediv_le_ediv (by decide) hle
  cases relation with
  | before => exact ⟨.none, .some (hday (Int.sub_le_sub_right hfirst 1))⟩
  | notAfter => exact ⟨.none, .some (hday (Int.sub_le_sub_right hnext 1))⟩
  | after => exact ⟨.some (hday hnext), .none⟩
  | notBefore => exact ⟨.some (hday hfirst), .none⟩
  | within => exact ⟨.some (hday hfirst), .some (hday (Int.sub_le_sub_right hnext 1))⟩

/-- The days that compare with the bucket of a later day are no earlier than those that compare
with a day exactly if the relation looks at the end of the bucket only, or the bucket does not
begin before the day. -/
theorem notAfter_dayBounds_bucket_iff {day later : Int} (hlt : day < later)
    (granularity : Granularity) :
    (relation.dayBounds (Granularity.day.start day) (Granularity.day.start (day + 1))).NotAfter
        (relation.dayBounds (granularity.floor (Granularity.day.start later))
          (granularity.next (Granularity.day.start later))) ↔
      relation = .after ∨ relation = .notAfter ∨
        day ≤ granularity.floor (Granularity.day.start later) / microsecondsPerDay := by
  have hnext := granularity.lt_next (Granularity.day.start later)
  obtain ⟨first, hfirst⟩ := granularity.exists_floor_midnight later
  rw [hfirst]
  generalize granularity.next (Granularity.day.start later) = next at hnext ⊢
  simp only [Granularity.start, microsecondsPerDay, microsecondsPerHour, microsecondsPerMinute]
    at hnext ⊢
  cases relation <;>
    simp only [dayBounds, Bounds.NotAfter, Option.rel_some_some, Option.rel_none_none, reduceCtorEq,
      false_or, true_or, or_true, iff_true, true_and, and_true, microsecondsPerDay, microsecondsPerHour,
      microsecondsPerMinute] <;>
    omega

end TimeRelation

end Calendar

/-! ## Ranges -/

/-- Whether two texts name days, the first one none after that of the second. -/
def DateText.NotAfter (today : Int) (text other : String) : Prop :=
  ∃ day otherDay, DateText.day? today text = some day ∧
    DateText.day? today other = some otherDay ∧ day ≤ otherDay

/-- Whether a range names days on the same sides as another one, and on no side a later day. -/
def DateRange.NotAfter (today : Int) (range other : DateRange) : Prop :=
  Option.Rel (DateText.NotAfter today) range.first other.first ∧
    Option.Rel (DateText.NotAfter today) range.last other.last

/-- Texts of bounds compare as the days that the bounds mean. -/
theorem rel_notAfter_toText_iff {today : Int} {bound other : Option DayBound}
    {day otherDay : Option Int} (hbound : bound.map (DayBound.day? today) = day.map some)
    (hother : other.map (DayBound.day? today) = otherDay.map some) :
    Option.Rel (DateText.NotAfter today) (bound.map DayBound.toText) (other.map DayBound.toText) ↔
      Option.Rel (· ≤ ·) day otherDay := by
  cases bound with
  | none =>
      obtain rfl : day = none := Option.map_eq_none_iff.1 hbound.symm
      cases other with
      | none =>
          obtain rfl : otherDay = none := Option.map_eq_none_iff.1 hother.symm
          exact iff_of_true .none .none
      | some other =>
          obtain ⟨otherDay, rfl, _⟩ := Option.map_eq_some_iff.1 hother.symm
          exact iff_of_false nofun nofun
  | some bound =>
      obtain ⟨day, rfl, hday⟩ := Option.map_eq_some_iff.1 hbound.symm
      cases other with
      | none =>
          obtain rfl : otherDay = none := Option.map_eq_none_iff.1 hother.symm
          exact iff_of_false nofun nofun
      | some other =>
          obtain ⟨otherDay, rfl, hotherDay⟩ := Option.map_eq_some_iff.1 hother.symm
          simp [DateText.NotAfter, DayBound.day?_toText, ← hday, ← hotherDay]

theorem DateRange.notAfter_ofBounds {today : Int} {bounds others : Bounds DayBound}
    {days otherDays : Bounds Int} (hbounds : bounds.map (DayBound.day? today) = days.map some)
    (hothers : others.map (DayBound.day? today) = otherDays.map some) :
    (ofBounds bounds).NotAfter today (ofBounds others) ↔ days.NotAfter otherDays :=
  and_congr
    (rel_notAfter_toText_iff (congrArg Bounds.lower hbounds) (congrArg Bounds.lower hothers))
    (rel_notAfter_toText_iff (congrArg Bounds.upper hbounds) (congrArg Bounds.upper hothers))

namespace Compiler

variable {compiler : Compiler} {operator : Comparison} {relation : TimeRelation}
  {field : PlainField} {unit valueUnit : CalendarUnit} {now : WallTime} {earlier later : Int}

/-- If the days of only one of two moments are counted, it is the earlier one. -/
theorem counted_of_ne (hle : earlier ≤ later)
    (h : (Operand.relative earlier valueUnit).isCounted relation ≠
      (Operand.relative later valueUnit).isCounted relation) :
    valueUnit.normalize = .day ∧ earlier ≤ relation.latestDay ∧ relation.latestDay < later := by
  have hiff : ¬(valueUnit.normalize = .day ∧ earlier ≤ relation.latestDay ↔
      valueUnit.normalize = .day ∧ later ≤ relation.latestDay) := by
    rw [← Operand.isCounted_relative_iff, ← Operand.isCounted_relative_iff]
    exact fun hiff => h (Bool.eq_iff_iff.2 hiff)
  by_cases hday : valueUnit.normalize = .day
  · simp only [hday, true_and] at hiff ⊢
    omega
  · exact absurd (iff_of_false (fun h => hday h.1) fun h => hday h.1) hiff

/-- A comparison with a later moment moves no bound to an earlier day exactly if the days of both
are counted back from today or those of neither are, or the relation looks at the end of the
moment only, or the bucket of the later moment does not begin before the day counted. -/
theorem notAfter_dateRange_iff {range laterRange : DateRange} (hle : earlier ≤ later)
    (hrelation : operator.timeRelation? = some relation) (hnow : compiler.now = .ok now)
    (hrange : compiler.dateRange (some (.condition (.comparison operator (.bucketed field unit)
      (.relative earlier valueUnit)))) = .ok range)
    (hlater : compiler.dateRange (some (.condition (.comparison operator (.bucketed field unit)
      (.relative later valueUnit)))) = .ok laterRange) :
    range.NotAfter now.day laterRange ↔
      (Operand.relative earlier valueUnit).isCounted relation =
          (Operand.relative later valueUnit).isCounted relation ∨
        relation = .after ∨ relation = .notAfter ∨
        now.day + earlier ≤
          unit.granularity.floor ((now.day + later) * microsecondsPerDay) / microsecondsPerDay := by
  obtain ⟨bounds, hbounds, rfl⟩ := exists_bounds_of_dateRange hrelation hrange
  obtain ⟨laterBounds, hlaterBounds, rfl⟩ := exists_bounds_of_dateRange hrelation hlater
  rw [DateRange.notAfter_ofBounds (days_operandBounds hnow rfl hbounds)
    (days_operandBounds hnow rfl hlaterBounds)]
  by_cases hsame : (Operand.relative earlier valueUnit).isCounted relation =
      (Operand.relative later valueUnit).isCounted relation
  · rw [Operand.granularity, Operand.granularity, hsame]
    have hmoment := (Granularity.strictMono_start valueUnit.granularity).monotone
      (Int.add_le_add_left hle (valueUnit.granularity.index now.microseconds))
    refine iff_of_true ?_ (.inl rfl)
    exact TimeRelation.notAfter_dayBounds (Granularity.monotone_floor _ hmoment)
      (Granularity.monotone_next _ hmoment)
  · obtain ⟨hday, hearlier, hlate⟩ := counted_of_ne hle hsame
    have hcounted : (Operand.relative earlier valueUnit).isCounted relation = true :=
      Operand.isCounted_relative_iff.2 ⟨hday, hearlier⟩
    have huncounted : ¬(Operand.relative later valueUnit).isCounted relation = true :=
      fun h => hlate.not_ge (Operand.isCounted_relative_iff.1 h).2
    rw [or_iff_right hsame, Operand.granularity, Operand.granularity, if_pos hcounted,
      if_neg huncounted, CalendarUnit.granularity_of_normalize hday, Granularity.floor_start,
      Granularity.next_start]
    exact TimeRelation.notAfter_dayBounds_bucket_iff
      (Int.add_lt_add_left (hearlier.trans_lt hlate) now.day) _

/-- On 15 March 2026, a Sunday, no bound moves back when the weeks of tomorrow take over from
today, since they begin today. -/
theorem notAfter_dateRange_sunday :
    let compiler : Compiler := { bare with clock := ⟨⟨63909167400000000, by decide⟩, 0⟩ }
    let now : WallTime := ⟨63909167400000000, by decide⟩
    let within (amount : Int) : Filter :=
      .condition (.comparison .equal (.bucketed (.literal "ga:date") .week) (.relative amount .day))
    let range : DateRange := ⟨some "today", some "today"⟩
    let laterRange : DateRange := ⟨some "2026-03-15", some "2026-03-21"⟩
    (0 : Int) ≤ 1 ∧ Comparison.equal.timeRelation? = some .within ∧ compiler.now = .ok now ∧
      compiler.dateRange (some (within 0)) = .ok range ∧
      compiler.dateRange (some (within 1)) = .ok laterRange ∧
      range.NotAfter now.day laterRange := by
  intro compiler now within range laterRange
  have hle : (0 : Int) ≤ 1 := by decide
  have hnow : compiler.now = .ok now := by decide +kernel
  have hrange : compiler.dateRange (some (within 0)) = .ok range := by decide +kernel
  have hlater : compiler.dateRange (some (within 1)) = .ok laterRange := by decide +kernel
  refine ⟨hle, rfl, hnow, hrange, hlater, ?_⟩
  refine (notAfter_dateRange_iff hle rfl hnow hrange hlater).2 (.inr (.inr (.inr ?_)))
  decide +kernel

/-- At the same time, the month of tomorrow began two weeks ago: from today on is from today on,
but from tomorrow on is from the first of March on. -/
theorem not_notAfter_dateRange_month :
    let compiler : Compiler := { bare with clock := ⟨⟨63909167400000000, by decide⟩, 0⟩ }
    let now : WallTime := ⟨63909167400000000, by decide⟩
    let since (amount : Int) : Filter :=
      .condition
        (.comparison .atLeast (.bucketed (.literal "ga:date") .month) (.relative amount .day))
    let range : DateRange := ⟨some "today", none⟩
    let laterRange : DateRange := ⟨some "2026-03-01", none⟩
    compiler.now = .ok now ∧ compiler.dateRange (some (since 0)) = .ok range ∧
      compiler.dateRange (some (since 1)) = .ok laterRange ∧
      ¬range.NotAfter now.day laterRange := by
  intro compiler now since range laterRange
  refine ⟨by decide +kernel, by decide +kernel, by decide +kernel, ?_⟩
  rintro ⟨hfirst, _⟩
  obtain ⟨day, laterDay, htoday, hmarch, hle⟩ := Option.rel_some_some.1 hfirst
  have hday : DateText.day? now.day "2026-03-01" = some (now.day - 14) := by decide +kernel
  obtain rfl := Option.some.inj (hday.symm.trans hmarch)
  obtain rfl := Option.some.inj htoday
  omega

end Compiler

end AnalyticsQuery
