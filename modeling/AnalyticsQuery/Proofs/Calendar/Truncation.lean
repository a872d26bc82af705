import AnalyticsQuery.Proofs.Calendar.Years

/-!
# Truncation

Clock and calendar show where a bucket begins: at a full minute or hour, at midnight, at the
midnight of a Sunday or a Monday, and at that of the first day of a month or of a year.
Truncating finds the last of these times that is not after the time given, and all its other
properties follow from that.
-/

namespace AnalyticsQuery.Calendar

open Fallible

/-! ## Finer and coarser buckets -/

namespace Granularity

/-- Whether every bucket of a granularity consists of whole buckets of a finer one. -/
inductive Refines : Granularity → Granularity → Prop where
  | minuteHour : Refines minute hour
  | hourDay : Refines hour day
  | dayWeek : Refines day week
  | dayIsoWeek : Refines day isoWeek
  | dayMonth : Refines day month
  | monthYear : Refines month year
  | trans {fine middle coarse : Granularity} :
      Refines fine middle → Refines middle coarse → Refines fine coarse

variable {fine coarse : Granularity}

/-- Where a bucket begins, a bucket of a finer granularity begins. -/
theorem Refines.exists_start (h : fine.Refines coarse) (number : Int) :
    ∃ other, fine.start other = coarse.start number := by
  induction h generalizing number with
  | minuteHour => exact ⟨number * 60, Int.mul_assoc _ _ _⟩
  | hourDay => exact ⟨number * 24, Int.mul_assoc _ _ _⟩
  | dayWeek => exact ⟨7 * number - 1, rfl⟩
  | dayIsoWeek => exact ⟨7 * number, rfl⟩
  | dayMonth => exact ⟨monthStart number, rfl⟩
  | monthYear =>
      refine ⟨12 * number, ?_⟩
      rw [start, start, monthStart_mul_twelve]
  | trans _ _ ihfine ihcoarse =>
      obtain ⟨middle, hmiddle⟩ := ihcoarse number
      rw [← hmiddle]
      exact ihfine middle

/-- Rounding down to finer buckets first makes no difference. -/
theorem Refines.floor_floor (h : fine.Refines coarse) (instant : Int) :
    coarse.floor (fine.floor instant) = coarse.floor instant := by
  apply le_antisymm
  · exact coarse.monotone_floor (fine.floor_le instant)
  · obtain ⟨number, hnumber⟩ := h.exists_start (coarse.index instant)
    have hle : fine.start number ≤ instant := by
      rw [hnumber, ← floor_eq_start]
      exact coarse.floor_le instant
    rw [coarse.floor_eq_start instant, start_le_floor_iff, ← hnumber, start_le_floor_iff]
    exact hle

end Granularity

/-! ## Where buckets begin -/

namespace WallTime

theorem microseconds_injective : Function.Injective microseconds := by
  rintro ⟨microseconds, _⟩ ⟨_, _⟩ rfl
  rfl

/-- Times are ordered as the microseconds that they count. -/
instance : PartialOrder WallTime where
  le time other := time.microseconds ≤ other.microseconds
  lt time other := time.microseconds < other.microseconds
  le_refl _ := le_rfl
  le_trans _ _ _ := le_trans
  lt_iff_le_not_ge _ _ := lt_iff_le_not_ge
  le_antisymm _ _ hle hge := microseconds_injective (le_antisymm hle hge)

theorem le_iff {time other : WallTime} : time ≤ other ↔ time.microseconds ≤ other.microseconds :=
  Iff.rfl

theorem lt_iff {time other : WallTime} : time < other ↔ time.microseconds < other.microseconds :=
  Iff.rfl

/-- Whether a bucket begins at a time, by what clock and calendar show. -/
def Begins (granularity : Granularity) (time : WallTime) : Prop :=
  match granularity with
  | .minute => time.second = 0 ∧ time.microsecond = 0
  | .hour => time.minute = 0 ∧ time.second = 0 ∧ time.microsecond = 0
  | .day => time.timeOfDay = 0
  | .week => time.timeOfDay = 0 ∧ daysSinceSunday time.day = 0
  | .isoWeek => time.timeOfDay = 0 ∧ daysSinceMonday time.day = 0
  | .month => time.timeOfDay = 0 ∧ time.date.dayOfMonth = 1
  | .year => time.timeOfDay = 0 ∧ time.date.dayOfMonth = 1 ∧ time.date.month = 1

instance (granularity : Granularity) (time : WallTime) : Decidable (time.Begins granularity) :=
  match granularity with
  | .minute => inferInstanceAs (Decidable (_ ∧ _))
  | .hour => inferInstanceAs (Decidable (_ ∧ _))
  | .day => inferInstanceAs (Decidable (_ = _))
  | .week => inferInstanceAs (Decidable (_ ∧ _))
  | .isoWeek => inferInstanceAs (Decidable (_ ∧ _))
  | .month => inferInstanceAs (Decidable (_ ∧ _))
  | .year => inferInstanceAs (Decidable (_ ∧ _))

variable {granularity : Granularity} {time start next : WallTime} {unit : CalendarUnit}

/-- A time is the midnight of a day if its clock shows midnight and its calendar that day. -/
theorem eq_midnight_iff (time : WallTime) (day : Int) :
    day * microsecondsPerDay = time.microseconds ↔ time.timeOfDay = 0 ∧ time.day = day := by
  simp only [timeOfDay, WallTime.day, microsecondsPerDay, microsecondsPerHour,
    microsecondsPerMinute]
  omega

theorem monthStart_eq_iff (date : Date) :
    monthStart (monthOf date.day) = date.day ↔ date.dayOfMonth = 1 := by
  rw [Date.dayOfMonth]
  omega

theorem yearStart_eq_iff (date : Date) :
    yearStart (yearOf date.day) = date.day ↔ date.dayOfMonth = 1 ∧ date.month = 1 := by
  rw [← monthStart_eq_iff, Date.month, ← monthStart_mul_twelve, ← monthOf_div_twelve]
  constructor
  · intro hfirst
    have hmonth : monthOf date.day = 12 * (monthOf date.day / 12) := by
      conv_lhs => rw [← hfirst]
      exact index_start_of_gc gc_monthStart strictMono_monthStart _
    exact ⟨hmonth ▸ hfirst, by omega⟩
  · rintro ⟨hfirst, hmonth⟩
    have hjanuary : 12 * (monthOf date.day / 12) = monthOf date.day := by omega
    rw [hjanuary]
    exact hfirst

/-- Buckets begin at the times that rounding down does not change. -/
theorem begins_iff :
    time.Begins granularity ↔ granularity.floor time.microseconds = time.microseconds := by
  cases granularity with
  | minute =>
      simp only [Granularity.floor, Begins, second, microsecond, timeOfDay, microsecondsPerDay,
        microsecondsPerHour, microsecondsPerMinute]
      omega
  | hour =>
      simp only [Granularity.floor, Begins, minute, second, microsecond, timeOfDay,
        microsecondsPerDay, microsecondsPerHour, microsecondsPerMinute]
      omega
  | day =>
      rw [Granularity.floor, eq_midnight_iff]
      exact (and_iff_left rfl).symm
  | week =>
      rw [Granularity.floor, eq_midnight_iff]
      exact and_congr_right fun _ => sub_eq_self.symm.trans eq_comm
  | isoWeek =>
      rw [Granularity.floor, eq_midnight_iff]
      exact and_congr_right fun _ => sub_eq_self.symm.trans eq_comm
  | month =>
      rw [Granularity.floor, eq_midnight_iff]
      exact and_congr_right fun _ => (monthStart_eq_iff time.date).symm.trans eq_comm
  | year =>
      rw [Granularity.floor, eq_midnight_iff]
      exact and_congr_right fun _ => (yearStart_eq_iff time.date).symm.trans eq_comm

theorem Begins.eq_start (h : time.Begins granularity) :
    time.microseconds = granularity.start (granularity.index time.microseconds) := by
  rw [← Granularity.floor_eq_start]
  exact (begins_iff.1 h).symm

theorem begins_of_eq_start {number : Int} (h : time.microseconds = granularity.start number) :
    time.Begins granularity := by
  rw [begins_iff, h, Granularity.floor_start]

/-- Moving the beginning of a bucket leads to that of the bucket with the sum as its number. -/
theorem add_eq_ok_iff {amount : Int} (h : start.Begins unit.granularity) :
    start.add unit amount = .ok time ↔ time.microseconds =
      unit.granularity.start (unit.granularity.index start.microseconds + amount) := by
  constructor
  · exact microseconds_add h.eq_start
  · intro htime
    obtain ⟨moved, hmoved⟩ := (exists_add_iff h.eq_start).2 (htime ▸ time.inYears)
    rw [hmoved, microseconds_injective ((microseconds_add h.eq_start hmoved).trans htime.symm)]

/-! ## The bucket of a time -/

/-- The first instant of the bucket of a time is the last beginning that is not after it. -/
theorem isGreatest_of_floor (h : start.microseconds = granularity.floor time.microseconds) :
    IsGreatest {other : WallTime | other.Begins granularity ∧ other ≤ time} start := by
  constructor
  · constructor
    · rw [begins_iff, h, Granularity.floor_floor]
    · rw [le_iff, h]
      exact granularity.floor_le _
  · rintro other ⟨hbegins, hle⟩
    rw [le_iff, h, ← begins_iff.1 hbegins]
    exact granularity.monotone_floor hle

theorem next_le_of_begins {later : WallTime} (hlt : time < later)
    (hbegins : later.Begins granularity) :
    granularity.next time.microseconds ≤ later.microseconds := by
  have hstart := begins_iff.1 hbegins
  rw [Granularity.floor_eq_start] at hstart
  rw [← hstart, Granularity.next_le_start_iff, hstart]
  exact hlt

/-- The first instant after the bucket of a time is the first beginning after it. -/
theorem isLeast_of_next (h : next.microseconds = granularity.next time.microseconds) :
    IsLeast {other : WallTime | other.Begins granularity ∧ time < other} next := by
  constructor
  · constructor
    · rw [begins_iff, h, Granularity.next, Granularity.floor_start]
    · rw [lt_iff, h]
      exact granularity.lt_next _
  · rintro other ⟨hbegins, hlt⟩
    rw [le_iff, h]
    exact next_le_of_begins hlt hbegins

/-- The bucket of a time is followed by another one in the calendar if any begins later. -/
theorem inYears_next_iff :
    InYears (granularity.next time.microseconds) ↔
      ∃ later, time < later ∧ later.Begins granularity := by
  constructor
  · intro hyears
    obtain ⟨next, hnext⟩ := exists_ofMicroseconds_iff.2 hyears
    have hleast := isLeast_of_next (ofMicroseconds_eq_ok_iff.1 hnext)
    exact ⟨next, hleast.1.2, hleast.1.1⟩
  · rintro ⟨later, hlt, hbegins⟩
    have hfirst := time.inRange.1.trans_lt (granularity.lt_next time.microseconds)
    have hlast := (next_le_of_begins hlt hbegins).trans_lt later.inRange.2
    exact inYears_iff.2 ⟨hfirst.le, hlast⟩

/-! ## Truncating -/

theorem floor_truncate (h : time.truncate unit = .ok start) :
    unit.granularity.floor start.microseconds = start.microseconds := by
  rw [truncate_eq_ok_iff.1 h, Granularity.floor_floor]

/-- A time can be truncated if its bucket begins no earlier than some time of the calendar. -/
theorem exists_truncate_of_le (h : start.microseconds ≤ unit.granularity.floor time.microseconds) :
    ∃ result, time.truncate unit = .ok result := by
  rw [exists_truncate_iff, inYears_iff]
  exact ⟨start.inRange.1.trans h, (unit.granularity.floor_le _).trans_lt time.inRange.2⟩

/-- Moving a truncated time by one unit leads to the first instant after its bucket. -/
theorem add_truncate_eq_ok_iff (h : time.truncate unit = .ok start) :
    start.add unit 1 = .ok next ↔
      next.microseconds = unit.granularity.next time.microseconds := by
  have hbegins : start.Begins unit.granularity := begins_iff.2 (floor_truncate h)
  rw [add_eq_ok_iff hbegins, truncate_eq_ok_iff.1 h, Granularity.floor_eq_start,
    Granularity.index_start]
  rfl

/-- Truncating to finer buckets first makes no difference. -/
theorem truncate_of_finer {finer : CalendarUnit} {middle : WallTime}
    (hrefines : finer.granularity.Refines unit.granularity)
    (h : time.truncate finer = .ok middle) : middle.truncate unit = time.truncate unit := by
  rw [truncate, truncate_eq_ok_iff.1 h, hrefines.floor_floor]
  rfl

/-- Where a time can be truncated, it can be truncated to finer buckets. -/
theorem exists_truncate_finer {finer : CalendarUnit}
    (hrefines : finer.granularity.Refines unit.granularity)
    (h : time.truncate unit = .ok start) : ∃ middle, time.truncate finer = .ok middle := by
  have hstart : start.microseconds ≤ finer.granularity.floor time.microseconds := by
    rw [truncate_eq_ok_iff.1 h, ← hrefines.floor_floor]
    exact unit.granularity.floor_le _
  exact exists_truncate_of_le hstart

/-- What a time rounded down to the buckets of a unit has to be. -/
structure IsFloor (unit : CalendarUnit) (time start : WallTime) : Prop where
  greatest : IsGreatest {other : WallTime | other.Begins unit.granularity ∧ other ≤ time} start
  idempotent : start.truncate unit = .ok start
  monotone : ∀ later laterStart, time ≤ later → later.truncate unit = .ok laterStart →
    start ≤ laterStart
  lt_next : ∀ next, start.add unit 1 = .ok next → time < next
  /-- One unit later the calendar has ended only if no other bucket begins in it. -/
  last_bucket : (∀ next, start.add unit 1 ≠ .ok next) →
    ∀ later, time < later → ¬later.Begins unit.granularity
  sunday : unit = .week ∨ unit = .weekOfYear → daysSinceSunday start.day = 0
  monday : unit = .isoWeek → daysSinceMonday start.day = 0
  after_finer : ∀ finer : CalendarUnit, finer.granularity.Refines unit.granularity →
    ∃ middle, time.truncate finer = .ok middle ∧ middle.truncate unit = .ok start

theorem isFloor_truncate (h : time.truncate unit = .ok start) : IsFloor unit time start := by
  have hgreatest := isGreatest_of_floor (truncate_eq_ok_iff.1 h)
  have hbegins := hgreatest.1.1
  constructor
  case greatest => exact hgreatest
  case idempotent => exact truncate_eq_ok_iff.2 (floor_truncate h).symm
  case monotone =>
    intro later laterStart hle hlater
    rw [le_iff, truncate_eq_ok_iff.1 h, truncate_eq_ok_iff.1 hlater]
    exact unit.granularity.monotone_floor hle
  case lt_next =>
    intro next hnext
    exact (isLeast_of_next ((add_truncate_eq_ok_iff h).1 hnext)).1.2
  case last_bucket =>
    intro hnone later hlt hlater
    obtain ⟨next, hnext⟩ := exists_ofMicroseconds_iff.2 (inYears_next_iff.2 ⟨later, hlt, hlater⟩)
    exact hnone next ((add_truncate_eq_ok_iff h).2 (ofMicroseconds_eq_ok_iff.1 hnext))
  case sunday =>
    rintro (rfl | rfl)
    · exact hbegins.2
    · exact hbegins.2
  case monday =>
    rintro rfl
    exact hbegins.2
  case after_finer =>
    intro finer hrefines
    obtain ⟨middle, hmiddle⟩ := exists_truncate_finer hrefines h
    exact ⟨middle, hmiddle, (truncate_of_finer hrefines hmiddle).trans h⟩

end WallTime

namespace Timestamp

variable {timestamp result : Timestamp} {unit : CalendarUnit}

@[simp]
theorem wallTime_withWallTime (timestamp : Timestamp) (time : WallTime) :
    (timestamp.withWallTime time).wallTime = time := by
  cases timestamp <;> rfl

@[simp]
theorem offset?_withWallTime (timestamp : Timestamp) (time : WallTime) :
    (timestamp.withWallTime time).offset? = timestamp.offset? := by
  cases timestamp <;> rfl

/-- Clocks whose offset is left open show the same in every zone. -/
theorem inZone_of_offset? (h : timestamp.offset? = none) (zone : Zone) :
    timestamp.inZone zone = .ok timestamp.wallTime := by
  cases timestamp with
  | day date => rfl
  | naive time => rfl
  | zoned moment => cases h

/-- Truncating a timestamp rounds down what its wall clock shows, whatever the clock is ahead of
universal time, and leaves the clock where it hangs.  A clock without an offset may be hung up
in any zone before or after. -/
theorem isFloor_of_truncate (h : timestamp.truncate unit = .ok result) :
    WallTime.IsFloor unit timestamp.wallTime result.wallTime ∧
      result.offset? = timestamp.offset? ∧
      (timestamp.offset? = none → ∀ zone : Zone,
        (do (← timestamp.inZone zone).truncate unit) = result.inZone zone) := by
  obtain ⟨start, hstart, hresult⟩ := bind_eq_ok_iff.1 h
  obtain rfl := Except.ok.inj hresult
  refine ⟨?_, offset?_withWallTime timestamp start, ?_⟩
  · rw [wallTime_withWallTime]
    exact WallTime.isFloor_truncate hstart
  · intro hoffset zone
    have hresultOffset : (timestamp.withWallTime start).offset? = none := by
      rw [offset?_withWallTime, hoffset]
    rw [inZone_of_offset? hoffset, inZone_of_offset? hresultOffset, wallTime_withWallTime]
    exact hstart

/-- New Year's Day of 2021 was a Friday, so its week began on 27 December 2020, also on clocks
that are five hours behind universal time. -/
theorem isFloor_of_truncate_new_year :
    let timestamp : Timestamp := .zoned ⟨⟨63745137912000000, by decide⟩, -18000000000⟩
    let sunday : WallTime := .midnight ⟨737785, by decide⟩
    timestamp.truncate .weekOfYear = .ok (.zoned ⟨sunday, -18000000000⟩) ∧
      WallTime.IsFloor .weekOfYear timestamp.wallTime sunday := by
  intro timestamp sunday
  have htruncate : timestamp.truncate .weekOfYear = .ok (.zoned ⟨sunday, -18000000000⟩) := by
    decide +kernel
  exact ⟨htruncate, (isFloor_of_truncate htruncate).1⟩

end Timestamp

end AnalyticsQuery.Calendar
