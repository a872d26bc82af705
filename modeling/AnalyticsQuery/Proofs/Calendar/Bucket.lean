import AnalyticsQuery.Calendar.Bucket
import AnalyticsQuery.Proofs.Calendar.Month
import AnalyticsQuery.Proofs.Fallible

/-!
# The grid of buckets

The buckets of a granularity are numbered.  `start` is the first instant of a bucket and
`index` the number of the one that contains an instant; a bucket has begun at an instant
exactly if its number is not above that of the instant's own.  Truncating finds the start
of a bucket and moving it by whole buckets changes its number, wherever these have a
result, on instants of any year.
-/

namespace AnalyticsQuery.Calendar

open Fallible

/-- Numbers are found from increasing starts. -/
theorem index_start_of_gc {start index : Int → Int} (hgc : GaloisConnection start index)
    (hstart : StrictMono start) (number : Int) : index (start number) = number :=
  le_antisymm (hstart.le_iff_le.1 (hgc.l_u_le (start number))) (hgc.le_u_l number)

namespace Granularity

/-- First instant of a bucket, in microseconds. -/
def start : Granularity → Int → Int
  | minute, index => index * microsecondsPerMinute
  | hour, index => index * microsecondsPerHour
  | .day, index => index * microsecondsPerDay
  | week, index => (7 * index - 1) * microsecondsPerDay
  | isoWeek, index => 7 * index * microsecondsPerDay
  | month, index => monthStart index * microsecondsPerDay
  | year, index => yearStart index * microsecondsPerDay

/-- Number of the bucket that contains an instant. -/
def index : Granularity → Int → Int
  | minute, instant => instant / microsecondsPerMinute
  | hour, instant => instant / microsecondsPerHour
  | .day, instant => instant / microsecondsPerDay
  | week, instant => (instant / microsecondsPerDay + 1) / 7
  | isoWeek, instant => instant / microsecondsPerDay / 7
  | month, instant => monthOf (instant / microsecondsPerDay)
  | year, instant => yearOf (instant / microsecondsPerDay)

/-- First instant after the bucket that contains an instant. -/
def next (granularity : Granularity) (instant : Int) : Int :=
  granularity.start (granularity.index instant + 1)

theorem gc_mul_ediv {length : Int} (h : 0 < length) :
    GaloisConnection (· * length) (· / length) :=
  fun _ _ => (Int.le_ediv_iff_mul_le h).symm

theorem gc_days : GaloisConnection (· * microsecondsPerDay) (· / microsecondsPerDay) :=
  gc_mul_ediv (by decide)

theorem gc_start (granularity : Granularity) :
    GaloisConnection granularity.start granularity.index := by
  cases granularity with
  | minute => exact gc_mul_ediv (by decide)
  | hour => exact gc_mul_ediv (by decide)
  | day => exact gc_days
  | week =>
      have hweek : GaloisConnection (fun index : Int => 7 * index - 1)
          fun day => (day + 1) / 7 := by
        intro index day
        dsimp only
        omega
      exact hweek.compose gc_days
  | isoWeek =>
      have hweek : GaloisConnection (fun index : Int => 7 * index) fun day => day / 7 := by
        intro index day
        dsimp only
        omega
      exact hweek.compose gc_days
  | month => exact gc_monthStart.compose gc_days
  | year => exact gc_yearStart.compose gc_days

theorem strictMono_start (granularity : Granularity) : StrictMono granularity.start := by
  have hday : StrictMono (· * microsecondsPerDay) :=
    fun _ _ h => Int.mul_lt_mul_of_pos_right h (by decide)
  cases granularity with
  | minute => exact fun _ _ h => Int.mul_lt_mul_of_pos_right h (by decide)
  | hour => exact fun _ _ h => Int.mul_lt_mul_of_pos_right h (by decide)
  | day => exact hday
  | week => exact hday.comp fun _ _ h => by omega
  | isoWeek => exact hday.comp fun _ _ h => by omega
  | month => exact hday.comp strictMono_monthStart
  | year => exact hday.comp strictMono_yearStart

/-- A year begins with its first month. -/
theorem start_year (number : Int) : year.start number = month.start (12 * number) := by
  rw [start, start, monthStart_mul_twelve]

variable (granularity : Granularity) (instant : Int)

@[simp]
theorem index_start (number : Int) : granularity.index (granularity.start number) = number :=
  index_start_of_gc (gc_start granularity) (strictMono_start granularity) number

theorem floor_eq_start :
    granularity.floor instant = granularity.start (granularity.index instant) := by
  cases granularity with
  | minute =>
      have hparts := Int.mul_ediv_add_emod instant microsecondsPerMinute
      simp only [floor, start, index]
      linarith
  | hour =>
      have hparts := Int.mul_ediv_add_emod instant microsecondsPerHour
      simp only [floor, start, index]
      linarith
  | day => rfl
  | week =>
      simp only [floor, start, index, daysSinceSunday]
      congr 1
      omega
  | isoWeek =>
      simp only [floor, start, index, daysSinceMonday]
      congr 1
      omega
  | month => rfl
  | year => rfl

@[simp]
theorem floor_start (number : Int) :
    granularity.floor (granularity.start number) = granularity.start number := by
  rw [floor_eq_start, index_start]

@[simp]
theorem next_start (number : Int) :
    granularity.next (granularity.start number) = granularity.start (number + 1) := by
  rw [next, index_start]

theorem monotone_index : Monotone granularity.index := (gc_start granularity).monotone_u

theorem monotone_floor : Monotone granularity.floor := by
  intro earlier later hle
  rw [floor_eq_start, floor_eq_start]
  exact (strictMono_start granularity).monotone (monotone_index granularity hle)

theorem monotone_next : Monotone granularity.next :=
  fun _ _ hle => (strictMono_start granularity).monotone
    (Int.add_le_add_right (monotone_index granularity hle) 1)

/-- A bucket begins before the floor of an instant or with it if it begins before the instant. -/
theorem start_le_floor_iff (number : Int) :
    granularity.start number ≤ granularity.floor instant ↔ granularity.start number ≤ instant := by
  rw [floor_eq_start, (strictMono_start granularity).le_iff_le]
  exact (gc_start granularity number instant).symm

/-- A bucket begins after that of an instant if it begins after the instant. -/
theorem next_le_start_iff (number : Int) :
    granularity.next instant ≤ granularity.start number ↔ instant < granularity.start number := by
  rw [next, (strictMono_start granularity).le_iff_le, Int.add_one_le_iff]
  exact (gc_start granularity).lt_iff_lt.symm

theorem floor_le : granularity.floor instant ≤ instant := by
  rw [floor_eq_start]
  exact (gc_start granularity).l_u_le instant

theorem lt_next : instant < granularity.next instant :=
  (gc_start granularity).lt_iff_lt.2 (Int.lt_succ _)

@[simp]
theorem floor_floor : granularity.floor (granularity.floor instant) = granularity.floor instant := by
  rw [granularity.floor_eq_start instant, floor_start]

theorem floor_lt_next : granularity.floor instant < granularity.next instant :=
  (floor_le granularity instant).trans_lt (lt_next granularity instant)

end Granularity

/-! ## Moving on the grid -/

namespace WallTime

variable {time result : WallTime}

theorem ofMicroseconds_eq_ok_iff {microseconds : Int} :
    ofMicroseconds microseconds = .ok result ↔ result.microseconds = microseconds := by
  unfold ofMicroseconds
  constructor
  · intro h
    split at h
    · rw [← Except.ok.inj h]
    · exact nomatch h
  · rintro rfl
    rw [dif_pos result.inRange]

theorem truncate_eq_ok_iff {unit : CalendarUnit} :
    time.truncate unit = .ok result ↔
      result.microseconds = unit.granularity.floor time.microseconds :=
  ofMicroseconds_eq_ok_iff

theorem shift_eq_ok_iff {offset : Int} :
    time.shift offset = .ok result ↔ result.microseconds = time.microseconds + offset :=
  ofMicroseconds_eq_ok_iff

/-- Counting months from the start of one never meets a day that a month lacks. -/
theorem addMonths_of_start {month amount : Int}
    (htime : time.microseconds = monthStart month * microsecondsPerDay) :
    time.addMonths amount =
      if fitsYearCount ((month + amount) / 12) then
        if 1 ≤ (month + amount) / 12 ∧ (month + amount) / 12 ≤ 9999 then
          ofMicroseconds (monthStart (month + amount) * microsecondsPerDay)
        else .error (.yearOutOfRange ((month + amount) / 12))
      else .error .overflow := by
  have hday : time.day = monthStart month := by
    rw [day, htime]
    exact Int.mul_ediv_cancel _ (by decide)
  have hmonth : monthOf (monthStart month) = month :=
    index_start_of_gc gc_monthStart strictMono_monthStart month
  have htimeOfDay : time.timeOfDay = 0 := by
    rw [timeOfDay, htime]
    exact Int.mul_emod_left _ _
  have hlength := monthLength_pos (month + amount)
  have hclamped : min 0 (monthLength (month + amount) - 1) = 0 := by omega
  simp only [addMonths, hday, hmonth, htimeOfDay, Int.sub_self, hclamped, Int.add_zero]

theorem microseconds_addMonths {month amount : Int}
    (htime : time.microseconds = monthStart month * microsecondsPerDay)
    (h : time.addMonths amount = .ok result) :
    result.microseconds = monthStart (month + amount) * microsecondsPerDay := by
  rw [addMonths_of_start htime] at h
  split at h
  · split at h
    · exact ofMicroseconds_eq_ok_iff.1 h
    · exact nomatch h
  · exact nomatch h

/-- Moving the start of a bucket leads to the start of another. -/
theorem microseconds_add {unit : CalendarUnit} {index amount : Int}
    (htime : time.microseconds = unit.granularity.start index)
    (h : time.add unit amount = .ok result) :
    result.microseconds = unit.granularity.start (index + amount) := by
  unfold add at h
  cases hgranularity : unit.granularity with
  | month =>
      rw [hgranularity] at htime h
      exact microseconds_addMonths htime h
  | year =>
      rw [hgranularity, Granularity.start_year] at htime
      rw [hgranularity] at h
      rw [Granularity.start_year, Int.mul_add]
      exact microseconds_addMonths htime h
  | _ =>
      rw [hgranularity] at htime h
      rw [shift_eq_ok_iff.1 h, htime]
      simp only [Granularity.start]
      ring

/-- The last instant of a bucket comes right before the next one. -/
theorem microseconds_bucket {unit : CalendarUnit} {first last : WallTime}
    (h : time.bucket unit = .ok (first, last)) :
    first.microseconds = unit.granularity.floor time.microseconds ∧
      last.microseconds = unit.granularity.next time.microseconds - 1 := by
  unfold bucket at h
  simp only [bind_eq_ok_iff] at h
  obtain ⟨start, hstart, next, hnext, before, hbefore, hresult⟩ := h
  obtain ⟨rfl, rfl⟩ := Prod.mk.inj (Except.ok.inj hresult)
  rw [truncate_eq_ok_iff] at hstart
  refine ⟨hstart, ?_⟩
  rw [Granularity.floor_eq_start] at hstart
  rw [shift_eq_ok_iff.1 hbefore, microseconds_add hstart hnext]
  rfl

end WallTime

/-! ## Days that compare with a bucket -/

/-- How an instant has to stand to the instants from `first` up to `next`. -/
def TimeRelation.Holds (relation : TimeRelation) (first next instant : Int) : Prop :=
  match relation with
  | before => instant < first
  | notAfter => instant < next
  | after => next ≤ instant
  | notBefore => first ≤ instant
  | within => first ≤ instant ∧ instant < next

/-- The days between two bounds. -/
def Bounds.Contains (bounds : Bounds Int) (day : Int) : Prop :=
  (∀ first, bounds.lower = some first → first ≤ day) ∧ ∀ last, bounds.upper = some last → day ≤ last

@[simp]
theorem Bounds.contains_upper {last day : Int} :
    Bounds.Contains ⟨none, some last⟩ day ↔ day ≤ last := by
  simp [Contains]

@[simp]
theorem Bounds.contains_lower {first day : Int} :
    Bounds.Contains ⟨some first, none⟩ day ↔ first ≤ day := by
  simp [Contains]

@[simp]
theorem Bounds.contains_both {first last day : Int} :
    Bounds.Contains ⟨some first, some last⟩ day ↔ first ≤ day ∧ day ≤ last := by
  simp [Contains]

/-- Days on which some instant stands to a bucket as asked for. -/
def TimeRelation.dayBounds (relation : TimeRelation) (first next : Int) : Bounds Int :=
  match relation with
  | before => ⟨none, some ((first - 1) / microsecondsPerDay)⟩
  | notAfter => ⟨none, some ((next - 1) / microsecondsPerDay)⟩
  | after => ⟨some (next / microsecondsPerDay), none⟩
  | notBefore => ⟨some (first / microsecondsPerDay), none⟩
  | within => ⟨some (first / microsecondsPerDay), some ((next - 1) / microsecondsPerDay)⟩

/-- A day is between the bounds exactly if it has an instant that is related to the bucket. -/
theorem TimeRelation.contains_dayBounds_iff {relation : TimeRelation} {first next : Int}
    (hbucket : first < next) (day : Int) :
    (relation.dayBounds first next).Contains day ↔
      ∃ instant, instant / microsecondsPerDay = day ∧ relation.Holds first next instant := by
  simp only [microsecondsPerDay, microsecondsPerHour, microsecondsPerMinute, dayBounds, Holds]
  constructor
  · intro h
    cases relation with
    | before =>
        rw [Bounds.contains_upper] at h
        exact ⟨day * 86400000000, by omega, by dsimp only; omega⟩
    | notAfter =>
        rw [Bounds.contains_upper] at h
        exact ⟨day * 86400000000, by omega, by dsimp only; omega⟩
    | after =>
        rw [Bounds.contains_lower] at h
        exact ⟨day * 86400000000 + 86399999999, by omega, by dsimp only; omega⟩
    | notBefore =>
        rw [Bounds.contains_lower] at h
        exact ⟨day * 86400000000 + 86399999999, by omega, by dsimp only; omega⟩
    | within =>
        rw [Bounds.contains_both] at h
        exact ⟨max first (day * 86400000000), by omega, by dsimp only; omega⟩
  · rintro ⟨instant, rfl, hholds⟩
    cases relation <;> simp only [Bounds.contains_upper, Bounds.contains_lower,
      Bounds.contains_both] at hholds ⊢ <;> omega

/-- The days that a comparison gives are those of its relation to the bucket. -/
theorem WallTime.days_comparisonDays {time : WallTime} {unit : CalendarUnit}
    {relation : TimeRelation} {bounds : Bounds Date}
    (h : time.comparisonDays unit relation = .ok bounds) :
    bounds.map Date.day = relation.dayBounds (unit.granularity.floor time.microseconds)
      (unit.granularity.next time.microseconds) := by
  unfold comparisonDays at h
  obtain ⟨⟨first, last⟩, hbucket, hbounds⟩ := bind_eq_ok_iff.1 h
  obtain ⟨hfirst, hlast⟩ := microseconds_bucket hbucket
  have hnext := eq_add_of_sub_eq hlast.symm
  rw [← hfirst, hnext]
  cases relation with
  | before =>
      obtain ⟨earlier, hearlier, hresult⟩ := bind_eq_ok_iff.1 hbounds
      rw [← Except.ok.inj hresult, TimeRelation.dayBounds, Int.sub_eq_add_neg,
        ← shift_eq_ok_iff.1 hearlier]
      rfl
  | notAfter =>
      rw [← Except.ok.inj hbounds, TimeRelation.dayBounds, Int.add_sub_cancel]
      rfl
  | after =>
      obtain ⟨later, hlater, hresult⟩ := bind_eq_ok_iff.1 hbounds
      rw [← Except.ok.inj hresult, TimeRelation.dayBounds, ← shift_eq_ok_iff.1 hlater]
      rfl
  | notBefore =>
      rw [← Except.ok.inj hbounds]
      rfl
  | within =>
      rw [← Except.ok.inj hbounds, TimeRelation.dayBounds, Int.add_sub_cancel]
      rfl

end AnalyticsQuery.Calendar
