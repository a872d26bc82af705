import AnalyticsQuery.Proofs.Calendar.Truncation

/-!
# Moving by units

From a time at which a bucket begins, whole numbers of units lead to the other beginnings of
buckets, and each of them is reached by one number only.  A time anywhere else is moved by
months or years as the pages of a calendar are turned: the month counts, its last day stands in
for a day that it lacks, and the clock is left alone.
-/

namespace AnalyticsQuery.Calendar

/-! ## From one beginning of a bucket to another -/

namespace WallTime

variable {unit : CalendarUnit} {start : WallTime}

/-- Moves to the same bucket have the same result, and the same error if it is not in the
calendar. -/
theorem add_eq_add {other : WallTime} {index otherIndex amount otherAmount : Int}
    (hstart : start.microseconds = unit.granularity.start index)
    (hother : other.microseconds = unit.granularity.start otherIndex)
    (hsame : index + amount = otherIndex + otherAmount) :
    start.add unit amount = other.add unit otherAmount := by
  unfold add
  cases hgranularity : unit.granularity with
  | month =>
      rw [hgranularity] at hstart hother
      exact (addMonths_of_start hstart).trans (hsame ▸ (addMonths_of_start hother).symm)
  | year =>
      rw [hgranularity, Granularity.start_year] at hstart hother
      have hmonths : 12 * index + 12 * amount = 12 * otherIndex + 12 * otherAmount := by omega
      exact (addMonths_of_start hstart).trans (hmonths ▸ (addMonths_of_start hother).symm)
  | _ =>
      rw [hgranularity] at hstart hother
      obtain rfl := eq_sub_of_add_eq hsame
      apply congrArg ofMicroseconds
      rw [hstart, hother]
      simp only [Granularity.start]
      ring

/-- What moving by whole numbers of units has to be, from a time at which a bucket begins. -/
structure WalksGrid (unit : CalendarUnit) (start : WallTime) : Prop where
  /-- There is a result exactly if the calendar has the bucket that is reached. -/
  defined : ∀ amount, (∃ result, start.add unit amount = .ok result) ↔
    InYears (unit.granularity.start (unit.granularity.index start.microseconds + amount))
  begins : ∀ amount result, start.add unit amount = .ok result → result.Begins unit.granularity
  add_add : ∀ first second middle, start.add unit first = .ok middle →
    middle.add unit second = start.add unit (first + second)
  strictMono : ∀ less more earlier later, less < more → start.add unit less = .ok earlier →
    start.add unit more = .ok later → earlier < later
  exists_unique : ∀ time : WallTime, InYears (unit.granularity.floor time.microseconds) →
    InYears (unit.granularity.next time.microseconds) →
    ∃! number, ∃ first next, start.add unit number = .ok first ∧
      start.add unit (number + 1) = .ok next ∧ first ≤ time ∧ time < next
  truncate : ∀ (time : WallTime) number first next, start.add unit number = .ok first →
    start.add unit (number + 1) = .ok next → first ≤ time → time < next →
    time.truncate unit = .ok first

/-- The bucket of a time is the one between the beginnings around it. -/
theorem index_eq_of_add {time first next : WallTime} {number : Int}
    (h : start.Begins unit.granularity) (hfirst : start.add unit number = .ok first)
    (hnext : start.add unit (number + 1) = .ok next) (hle : first ≤ time) (hlt : time < next) :
    unit.granularity.index time.microseconds =
      unit.granularity.index start.microseconds + number := by
  rw [add_eq_ok_iff h] at hfirst hnext
  apply index_eq_of_between (Granularity.gc_start unit.granularity)
  · rw [← hfirst]
    exact hle
  · rw [Int.add_assoc, ← hnext]
    exact hlt

theorem walksGrid_of_begins (h : start.Begins unit.granularity) : WalksGrid unit start := by
  constructor
  case defined =>
    intro amount
    exact exists_add_iff h.eq_start
  case begins =>
    intro amount result hresult
    exact begins_of_eq_start ((add_eq_ok_iff h).1 hresult)
  case add_add =>
    intro first second middle hmiddle
    exact add_eq_add ((add_eq_ok_iff h).1 hmiddle) h.eq_start (Int.add_assoc _ _ _)
  case strictMono =>
    intro less more earlier later hlt hearlier hlater
    rw [lt_iff, (add_eq_ok_iff h).1 hearlier, (add_eq_ok_iff h).1 hlater]
    exact unit.granularity.strictMono_start (Int.add_lt_add_left hlt _)
  case exists_unique =>
    intro time hfloor hnext
    obtain ⟨first, hfirst⟩ := exists_ofMicroseconds_iff.2 hfloor
    obtain ⟨next, hnext⟩ := exists_ofMicroseconds_iff.2 hnext
    rw [ofMicroseconds_eq_ok_iff] at hfirst hnext
    refine ⟨unit.granularity.index time.microseconds - unit.granularity.index start.microseconds,
      ⟨first, next, ?_, ?_, ?_, ?_⟩, ?_⟩
    · rw [add_eq_ok_iff h, hfirst, Granularity.floor_eq_start]
      congr 1
      omega
    · rw [add_eq_ok_iff h, hnext, Granularity.next]
      congr 1
      omega
    · rw [le_iff, hfirst]
      exact unit.granularity.floor_le _
    · rw [lt_iff, hnext]
      exact unit.granularity.lt_next _
    · rintro number ⟨otherFirst, otherNext, hotherFirst, hotherNext, hle, hlt⟩
      exact eq_sub_of_add_eq' (index_eq_of_add h hotherFirst hotherNext hle hlt).symm
  case truncate =>
    intro time number first next hfirst hnext hle hlt
    have hindex := index_eq_of_add h hfirst hnext hle hlt
    rw [truncate_eq_ok_iff, Granularity.floor_eq_start, hindex]
    exact (add_eq_ok_iff h).1 hfirst

end WallTime

/-! ## Months and years from any time -/

/-- The number of months in a unit, if units are counted in months. -/
def Granularity.months? : Granularity → Option Int
  | minute => none
  | hour => none
  | day => none
  | week => none
  | isoWeek => none
  | month => some 1
  | year => some 12

namespace WallTime

variable {time result : WallTime} {amount : Int}

theorem add_of_months {unit : CalendarUnit} {months : Int}
    (h : unit.granularity.months? = some months) :
    time.add unit amount = time.addMonths (months * amount) := by
  unfold add
  cases hgranularity : unit.granularity with
  | month =>
      rw [hgranularity] at h
      rw [← Option.some.inj h, Int.one_mul]
  | year =>
      rw [hgranularity] at h
      rw [← Option.some.inj h]
  | _ =>
      rw [hgranularity] at h
      exact nomatch h

/-- The day some months later, in any year. -/
def dayMonthsLater (time : WallTime) (amount : Int) : Int :=
  let month := monthOf time.day + amount
  monthStart month + min (time.day - monthStart (monthOf time.day)) (monthLength month - 1)

theorem monthOf_dayMonthsLater (time : WallTime) (amount : Int) :
    monthOf (time.dayMonthsLater amount) = monthOf time.day + amount := by
  have hday := monthStart_monthOf time.day
  have hlength := monthLength_pos (monthOf time.day + amount)
  unfold monthLength at hlength
  apply index_eq_of_between gc_monthStart
  · dsimp only [dayMonthsLater, monthLength]
    omega
  · dsimp only [dayMonthsLater, monthLength]
    omega

theorem day_of_microseconds {day : Int}
    (h : result.microseconds = day * microsecondsPerDay + time.timeOfDay) :
    result.day = day ∧ result.timeOfDay = time.timeOfDay := by
  simp only [WallTime.day, timeOfDay, microsecondsPerDay, microsecondsPerHour,
    microsecondsPerMinute] at h ⊢
  omega

/-- Moving by months leads to the same time of the day that many months later. -/
theorem addMonths_eq_ok_iff :
    time.addMonths amount = .ok result ↔
      result.microseconds = time.dayMonthsLater amount * microsecondsPerDay + time.timeOfDay := by
  simp only [addMonths]
  constructor
  · intro h
    split at h
    · split at h
      · exact ofMicroseconds_eq_ok_iff.1 h
      · cases h
    · cases h
  · intro hresult
    have hyears : 1 ≤ (monthOf time.day + amount) / 12 ∧
        (monthOf time.day + amount) / 12 ≤ 9999 := by
      rw [← monthOf_dayMonthsLater, ← (day_of_microseconds hresult).1, monthOf_div_twelve]
      exact result.inYears
    have hfits : fitsYearCount ((monthOf time.day + amount) / 12) = true := by
      rw [fitsYearCount, Bool.and_eq_true, decide_eq_true_eq, decide_eq_true_eq]
      omega
    rw [if_pos hfits, if_pos hyears]
    exact ofMicroseconds_eq_ok_iff.2 hresult

/-- There is such a time exactly if the calendar has the year that is reached. -/
theorem exists_addMonths_iff :
    (∃ result, time.addMonths amount = .ok result) ↔
      1 ≤ (monthOf time.day + amount) / 12 ∧ (monthOf time.day + amount) / 12 ≤ 9999 := by
  have hday : (time.dayMonthsLater amount * microsecondsPerDay + time.timeOfDay) /
      microsecondsPerDay = time.dayMonthsLater amount := by
    simp only [timeOfDay, microsecondsPerDay, microsecondsPerHour, microsecondsPerMinute]
    omega
  have hyears := @exists_ofMicroseconds_iff
    (time.dayMonthsLater amount * microsecondsPerDay + time.timeOfDay)
  rw [InYears, hday, ← monthOf_div_twelve, monthOf_dayMonthsLater] at hyears
  simp only [addMonths_eq_ok_iff, ← hyears, ofMicroseconds_eq_ok_iff]

/-- What moving a time by a number of months has to be. -/
structure MovesMonths (time : WallTime) (amount : Int) (moved : Except CalendarError WallTime) :
    Prop where
  defined : (∃ result, moved = .ok result) ↔
    1 ≤ (12 * time.date.year + (time.date.month - 1) + amount) / 12 ∧
      (12 * time.date.year + (time.date.month - 1) + amount) / 12 ≤ 9999
  month : ∀ result, moved = .ok result →
    12 * result.date.year + result.date.month = 12 * time.date.year + time.date.month + amount
  dayOfMonth : ∀ result, moved = .ok result → result.date.dayOfMonth =
    min time.date.dayOfMonth (monthLength (12 * result.date.year + (result.date.month - 1)))
  timeOfDay : ∀ result, moved = .ok result → result.timeOfDay = time.timeOfDay

theorem movesMonths_addMonths (time : WallTime) (amount : Int) :
    MovesMonths time amount (time.addMonths amount) := by
  have hmonth : ∀ result, time.addMonths amount = .ok result →
      monthOf result.day = monthOf time.day + amount := by
    intro result h
    rw [(day_of_microseconds (addMonths_eq_ok_iff.1 h)).1, monthOf_dayMonthsLater]
  constructor
  case defined =>
    rw [Date.monthOf_eq]
    exact exists_addMonths_iff
  case month =>
    intro result h
    have hresult := result.date.monthOf_eq
    have htime := time.date.monthOf_eq
    have hmoved : monthOf result.date.day = monthOf time.date.day + amount := hmonth result h
    omega
  case dayOfMonth =>
    intro result h
    have hday : result.date.day = time.dayMonthsLater amount :=
      (day_of_microseconds (addMonths_eq_ok_iff.1 h)).1
    have hmoved : monthOf result.date.day = monthOf time.day + amount := hmonth result h
    have htime : time.date.day = time.day := rfl
    rw [Date.monthOf_eq, Date.dayOfMonth, Date.dayOfMonth, hmoved, hday, htime]
    dsimp only [dayMonthsLater]
    omega
  case timeOfDay =>
    intro result h
    exact (day_of_microseconds (addMonths_eq_ok_iff.1 h)).2

/-- Units lead from one beginning of a bucket to another, each by a number of its own, and months
and years lead from any time to the same day of another month. -/
theorem add_walksGrid_movesMonths (unit : CalendarUnit) :
    (∀ start : WallTime, start.Begins unit.granularity → WalksGrid unit start) ∧
      ∀ months, unit.granularity.months? = some months → ∀ (time : WallTime) (amount : Int),
        MovesMonths time (months * amount) (time.add unit amount) := by
  constructor
  · intro start hbegins
    exact walksGrid_of_begins hbegins
  · intro months hmonths time amount
    rw [add_of_months hmonths]
    exact movesMonths_addMonths time (months * amount)

/-- A month after the last of January 2024 comes its leap day, and the months from New Year 2000
on lead to all others. -/
theorem add_walksGrid_movesMonths_leap_day :
    let start : WallTime := .midnight ⟨730119, by decide⟩
    let time : WallTime := ⟨63842293800000000, by decide⟩
    let leapDay : WallTime := ⟨63844799400000000, by decide⟩
    start.Begins CalendarUnit.monthOfYear.granularity ∧
      CalendarUnit.monthOfYear.granularity.months? = some 1 ∧ WalksGrid .monthOfYear start ∧
      time.add .monthOfYear 1 = .ok leapDay ∧ MovesMonths time 1 (.ok leapDay) := by
  intro start time leapDay
  have hbegins : start.Begins CalendarUnit.monthOfYear.granularity := by decide +kernel
  have hmonths : CalendarUnit.monthOfYear.granularity.months? = some 1 := rfl
  have hadd : time.add .monthOfYear 1 = .ok leapDay := by decide +kernel
  obtain ⟨hwalks, hmoves⟩ := add_walksGrid_movesMonths .monthOfYear
  exact ⟨hbegins, hmonths, hwalks start hbegins, hadd, hadd ▸ hmoves 1 hmonths time 1⟩

end WallTime

end AnalyticsQuery.Calendar
