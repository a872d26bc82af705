import AnalyticsQuery.Calendar.Timestamp
import AnalyticsQuery.Proofs.Calendar.Bucket

/-!
# The years of the calendar

Calendar computations on instants of any year, and when a computation that knows only the
years 1 to 9999 has a result: exactly if no instant that it comes by leaves them.
-/

namespace AnalyticsQuery.Calendar

open Fallible

/-- Whether an instant falls into the years that the calendar knows. -/
def InYears (instant : Int) : Prop :=
  1 ≤ yearOf (instant / microsecondsPerDay) ∧ yearOf (instant / microsecondsPerDay) ≤ 9999

theorem inYears_iff {instant : Int} :
    InYears instant ↔ 0 ≤ instant ∧ instant < dayCount * microsecondsPerDay := by
  have hfirst : 1 ≤ yearOf (instant / microsecondsPerDay) ↔ 0 ≤ instant := by
    have hyear := gc_yearStart 1 (instant / microsecondsPerDay)
    have hday := Granularity.gc_days (yearStart 1) instant
    exact hyear.symm.trans hday.symm
  have hlast : 10000 ≤ yearOf (instant / microsecondsPerDay) ↔
      dayCount * microsecondsPerDay ≤ instant := by
    have hyear := gc_yearStart 10000 (instant / microsecondsPerDay)
    have hday := Granularity.gc_days (yearStart 10000) instant
    exact hyear.symm.trans hday.symm
  rw [InYears, hfirst, ← not_le, ← hlast]
  omega

instance (instant : Int) : Decidable (InYears instant) :=
  inferInstanceAs (Decidable (_ ∧ _))

namespace WallTime

variable {time : WallTime} {unit : CalendarUnit}

theorem inYears (time : WallTime) : InYears time.microseconds := inYears_iff.2 time.inRange

theorem exists_ofMicroseconds_iff {instant : Int} :
    (∃ time, ofMicroseconds instant = .ok time) ↔ InYears instant := by
  constructor
  · rintro ⟨time, htime⟩
    rw [← ofMicroseconds_eq_ok_iff.1 htime]
    exact time.inYears
  · intro h
    exact ⟨_, dif_pos (inYears_iff.1 h)⟩

theorem exists_shift_iff {offset : Int} :
    (∃ result, time.shift offset = .ok result) ↔ InYears (time.microseconds + offset) :=
  exists_ofMicroseconds_iff

theorem exists_truncate_iff :
    (∃ result, time.truncate unit = .ok result) ↔
      InYears (unit.granularity.floor time.microseconds) :=
  exists_ofMicroseconds_iff

end WallTime

/-- A month starts in the years of the calendar if its year is one of them. -/
theorem inYears_monthStart_iff {month : Int} :
    InYears (monthStart month * microsecondsPerDay) ↔ 1 ≤ month / 12 ∧ month / 12 ≤ 9999 := by
  have hday : monthStart month * microsecondsPerDay / microsecondsPerDay = monthStart month :=
    Int.mul_ediv_cancel _ (by decide)
  have hmonth : monthOf (monthStart month) = month :=
    index_start_of_gc gc_monthStart strictMono_monthStart month
  rw [InYears, hday, ← monthOf_div_twelve, hmonth]

namespace WallTime

variable {time : WallTime} {unit : CalendarUnit}

theorem exists_addMonths {month amount : Int}
    (htime : time.microseconds = monthStart month * microsecondsPerDay)
    (h : InYears (monthStart (month + amount) * microsecondsPerDay)) :
    ∃ result, time.addMonths amount = .ok result := by
  have hyear := inYears_monthStart_iff.1 h
  have hfits : fitsYearCount ((month + amount) / 12) = true := by
    rw [fitsYearCount, Bool.and_eq_true, decide_eq_true_eq, decide_eq_true_eq]
    omega
  rw [addMonths_of_start htime, if_pos hfits, if_pos hyear]
  exact exists_ofMicroseconds_iff.2 h

/-- Moving the start of a bucket has a result exactly if the bucket reached starts in the
years of the calendar. -/
theorem exists_add_iff {index amount : Int}
    (htime : time.microseconds = unit.granularity.start index) :
    (∃ result, time.add unit amount = .ok result) ↔
      InYears (unit.granularity.start (index + amount)) := by
  constructor
  · rintro ⟨result, hresult⟩
    rw [← microseconds_add htime hresult]
    exact result.inYears
  · intro h
    unfold add
    cases hgranularity : unit.granularity with
    | month =>
        rw [hgranularity] at htime h
        exact exists_addMonths htime h
    | year =>
        rw [hgranularity, Granularity.start_year] at htime h
        rw [Int.mul_add] at h
        exact exists_addMonths htime h
    | _ =>
        rw [hgranularity] at htime h
        rw [exists_shift_iff, htime]
        simp only [Granularity.start] at h ⊢
        convert h using 1
        ring

/-- A bucket is found exactly if it starts and ends in the years of the calendar, and so
does the next one start. -/
theorem bucket_eq_ok_iff {first last : WallTime} :
    time.bucket unit = .ok (first, last) ↔
      first.microseconds = unit.granularity.floor time.microseconds ∧
        last.microseconds = unit.granularity.next time.microseconds - 1 ∧
          InYears (unit.granularity.next time.microseconds) := by
  constructor
  · intro h
    obtain ⟨hfirst, hlast⟩ := microseconds_bucket h
    refine ⟨hfirst, hlast, ?_⟩
    obtain ⟨start, hstart, hrest⟩ := bind_eq_ok_iff.1 h
    obtain ⟨next, hnext, _⟩ := bind_eq_ok_iff.1 hrest
    rw [truncate_eq_ok_iff, Granularity.floor_eq_start] at hstart
    exact (exists_add_iff hstart).1 ⟨next, hnext⟩
  · rintro ⟨hfirst, hlast, hyears⟩
    have hstart := hfirst
    rw [Granularity.floor_eq_start] at hstart
    obtain ⟨next, hnext⟩ := (exists_add_iff hstart).2 hyears
    have hshift : next.shift (-1) = .ok last := by
      rw [shift_eq_ok_iff, microseconds_add hstart hnext, hlast]
      rfl
    refine bind_eq_ok_iff.2 ⟨first, truncate_eq_ok_iff.2 hfirst, ?_⟩
    refine bind_eq_ok_iff.2 ⟨next, hnext, ?_⟩
    exact bind_eq_ok_iff.2 ⟨last, hshift, rfl⟩

end WallTime

/-- The instants by which the days that compare with a bucket are found: its start, the
start of the next one and the instant before that; and for a strict comparison the instant
before or after the bucket. -/
def TimeRelation.instants (relation : TimeRelation) (granularity : Granularity)
    (instant : Int) : List Int :=
  let first := granularity.floor instant
  let next := granularity.next instant
  [first, next, next - 1] ++
    match relation with
    | before => [first - 1]
    | notAfter => []
    | after => [next - 1 + 1]
    | notBefore => []
    | within => []

/-- The days that compare with a bucket are found exactly if no instant by which they are
leaves the years of the calendar. -/
theorem WallTime.exists_comparisonDays_iff {time : WallTime} {unit : CalendarUnit}
    {relation : TimeRelation} :
    (∃ days, time.comparisonDays unit relation = .ok days) ↔
      ∀ instant ∈ relation.instants unit.granularity time.microseconds, InYears instant := by
  constructor
  · rintro ⟨days, h⟩
    obtain ⟨⟨first, last⟩, hbucket, hdays⟩ := bind_eq_ok_iff.1 h
    obtain ⟨hfirst, hlast, hnext⟩ := bucket_eq_ok_iff.1 hbucket
    simp only [TimeRelation.instants, ← hfirst, ← hlast]
    refine List.forall_mem_append.2 ⟨?_, ?_⟩
    · simp only [List.forall_mem_cons]
      exact ⟨first.inYears, hnext, last.inYears, fun _ hnone => absurd hnone List.not_mem_nil⟩
    · cases relation with
      | before =>
          obtain ⟨earlier, hearlier, _⟩ := bind_eq_ok_iff.1 hdays
          rw [List.forall_mem_singleton]
          exact exists_shift_iff.1 ⟨earlier, hearlier⟩
      | after =>
          obtain ⟨later, hlater, _⟩ := bind_eq_ok_iff.1 hdays
          rw [List.forall_mem_singleton]
          exact exists_shift_iff.1 ⟨later, hlater⟩
      | notAfter => exact fun _ hnone => absurd hnone List.not_mem_nil
      | notBefore => exact fun _ hnone => absurd hnone List.not_mem_nil
      | within => exact fun _ hnone => absurd hnone List.not_mem_nil
  · intro h
    obtain ⟨hends, hstrict⟩ := List.forall_mem_append.1 h
    simp only [List.forall_mem_cons] at hends
    obtain ⟨hfirstYears, hnext, hlastYears, _⟩ := hends
    obtain ⟨first, hfirst⟩ := exists_ofMicroseconds_iff.2 hfirstYears
    obtain ⟨last, hlast⟩ := exists_ofMicroseconds_iff.2 hlastYears
    rw [ofMicroseconds_eq_ok_iff] at hfirst hlast
    rw [← hfirst, ← hlast] at hstrict
    have hbucket : time.bucket unit = .ok (first, last) :=
      bucket_eq_ok_iff.2 ⟨hfirst, hlast, hnext⟩
    refine exists_bind_eq_ok_iff.2 ⟨(first, last), hbucket, ?_⟩
    cases relation with
    | before =>
        obtain ⟨earlier, hearlier⟩ := exists_shift_iff.2 (List.forall_mem_singleton.1 hstrict)
        exact exists_bind_eq_ok_iff.2 ⟨earlier, hearlier, _, rfl⟩
    | after =>
        obtain ⟨later, hlater⟩ := exists_shift_iff.2 (List.forall_mem_singleton.1 hstrict)
        exact exists_bind_eq_ok_iff.2 ⟨later, hlater, _, rfl⟩
    | notAfter => exact ⟨_, rfl⟩
    | notBefore => exact ⟨_, rfl⟩
    | within => exact ⟨_, rfl⟩

/-! ## Zones -/

/-- The instant that a moment is in universal time, in any year. -/
def ZonedTime.universal (moment : ZonedTime) : Int :=
  moment.time.microseconds - moment.offset

/-- What the clocks of a zone show at an instant of universal time, in any year. -/
def Zone.reading (zone : Zone) (instant : Int) : Int :=
  instant + zone.offsetAt instant * microsecondsPerSecond

/-- The instants by which a moment is read on the clocks of a zone. -/
def ZonedTime.instants (moment : ZonedTime) (zone : Zone) : List Int :=
  [moment.universal, zone.reading moment.universal]

namespace ZonedTime

variable {moment : ZonedTime} {zone : Zone} {time : WallTime}

theorem inZone_eq_ok_iff :
    moment.inZone zone = .ok time ↔
      InYears moment.universal ∧ time.microseconds = zone.reading moment.universal := by
  constructor
  · intro h
    obtain ⟨instant, hinstant, htime⟩ := bind_eq_ok_iff.1 h
    have huniversal : instant.microseconds = moment.universal :=
      WallTime.shift_eq_ok_iff.1 hinstant
    rw [← huniversal]
    exact ⟨instant.inYears, WallTime.shift_eq_ok_iff.1 htime⟩
  · rintro ⟨hyears, htime⟩
    obtain ⟨instant, hinstant⟩ := WallTime.exists_ofMicroseconds_iff.2 hyears
    have huniversal := WallTime.ofMicroseconds_eq_ok_iff.1 hinstant
    refine bind_eq_ok_iff.2 ⟨instant, hinstant, ?_⟩
    rw [← huniversal] at htime
    exact WallTime.shift_eq_ok_iff.2 htime

theorem exists_inZone_iff :
    (∃ time, moment.inZone zone = .ok time) ↔
      ∀ instant ∈ moment.instants zone, InYears instant := by
  simp only [instants, List.forall_mem_cons, inZone_eq_ok_iff]
  constructor
  · rintro ⟨time, huniversal, htime⟩
    rw [← htime]
    exact ⟨huniversal, time.inYears, fun _ hnone => absurd hnone List.not_mem_nil⟩
  · rintro ⟨huniversal, hreading, _⟩
    obtain ⟨time, htime⟩ := WallTime.exists_ofMicroseconds_iff.2 hreading
    exact ⟨time, huniversal, WallTime.ofMicroseconds_eq_ok_iff.1 htime⟩

end ZonedTime

namespace Timestamp

/-- What the clocks of a zone show at a timestamp, in any year. -/
def reading (zone : Zone) : Timestamp → Int
  | day date => date.day * microsecondsPerDay
  | naive time => time.microseconds
  | zoned moment => zone.reading moment.universal

/-- The instants by which a timestamp is read on the clocks of a zone.  One without an
offset from universal time is such a reading already. -/
def instants (zone : Zone) : Timestamp → List Int
  | day _ => []
  | naive _ => []
  | zoned moment => moment.instants zone

variable {timestamp : Timestamp} {zone : Zone} {time : WallTime}

theorem exists_inZone_iff :
    (∃ time, timestamp.inZone zone = .ok time) ↔
      ∀ instant ∈ timestamp.instants zone, InYears instant := by
  cases timestamp with
  | day date => exact iff_of_true ⟨_, rfl⟩ fun _ hnone => absurd hnone List.not_mem_nil
  | naive time => exact iff_of_true ⟨_, rfl⟩ fun _ hnone => absurd hnone List.not_mem_nil
  | zoned moment => exact ZonedTime.exists_inZone_iff

theorem microseconds_inZone (h : timestamp.inZone zone = .ok time) :
    time.microseconds = timestamp.reading zone := by
  cases timestamp with
  | day date =>
      rw [← Except.ok.inj h]
      rfl
  | naive other =>
      rw [← Except.ok.inj h]
      rfl
  | zoned moment => exact (ZonedTime.inZone_eq_ok_iff.1 h).2

end Timestamp

end AnalyticsQuery.Calendar
