import AnalyticsQuery.Calendar.Day
import Mathlib

/-!
# Years and months

Years and months divide the days, before year 1 and after year 9999 as well.  That a day
is in a month says that the month is the last one that has begun, so the first days of
months and the months of days form a Galois connection; likewise for years.
-/

namespace AnalyticsQuery.Calendar

/-- Increasing starts, and for each position the last of them that is not after it. -/
theorem galoisConnection_of_between {start index : Int → Int} (hstart : StrictMono start)
    (hfirst : ∀ position, start (index position) ≤ position)
    (hnext : ∀ position, position < start (index position + 1)) :
    GaloisConnection start index := by
  intro number position
  constructor
  · intro hle
    have hlt : start number < start (index position + 1) := hle.trans_lt (hnext position)
    exact Int.lt_add_one_iff.1 (hstart.lt_iff_lt.1 hlt)
  · intro hle
    exact (hstart.monotone hle).trans (hfirst position)

theorem index_eq_of_between {start index : Int → Int} (hgc : GaloisConnection start index)
    {number position : Int} (hfirst : start number ≤ position)
    (hnext : position < start (number + 1)) : index position = number :=
  le_antisymm (Int.lt_add_one_iff.1 (hgc.lt_iff_lt.1 hnext)) ((hgc number position).1 hfirst)

/-! ## Years -/

theorem yearStart_succ (year : Int) :
    yearStart (year + 1) = yearStart year + monthOffset (isLeap year) 12 := by
  simp only [yearStart, monthOffset, isLeap, Bool.and_eq_true, Bool.or_eq_true, beq_iff_eq,
    bne_iff_ne]
  split <;> omega

theorem strictMono_yearStart : StrictMono yearStart := by
  apply strictMono_int_of_lt_succ
  intro year
  rw [yearStart_succ]
  cases isLeap year <;> simp [monthOffset]

/-- The year guessed from the mean length of a year is off by one at most. -/
theorem yearStart_guess (day : Int) : yearStart (400 * day / 146097) ≤ day ∧
    day < yearStart (400 * day / 146097 + 1 + 1 + 1) := by
  unfold yearStart
  omega

theorem yearStart_yearOf (day : Int) :
    yearStart (yearOf day) ≤ day ∧ day < yearStart (yearOf day + 1) := by
  obtain ⟨hle, hlt⟩ := yearStart_guess day
  unfold yearOf
  dsimp only
  by_cases hbefore : day < yearStart (400 * day / 146097 + 1)
  · rw [if_pos hbefore, Int.add_sub_cancel]
    exact ⟨hle, hbefore⟩
  · by_cases hafter : yearStart (400 * day / 146097 + 1 + 1) ≤ day
    · rw [if_neg hbefore, if_pos hafter]
      exact ⟨hafter, hlt⟩
    · rw [if_neg hbefore, if_neg hafter]
      exact ⟨not_lt.1 hbefore, not_le.1 hafter⟩

/-- A year has begun on a day exactly if it is not after the year of the day. -/
theorem gc_yearStart : GaloisConnection yearStart yearOf :=
  galoisConnection_of_between strictMono_yearStart (fun day => (yearStart_yearOf day).1)
    fun day => (yearStart_yearOf day).2

/-! ## Months of a year -/

theorem monthOffset_lt_succ (leap : Bool) {month : Nat} (h : month < 12) :
    monthOffset leap month < monthOffset leap (month + 1) := by
  interval_cases month <;> cases leap <;> decide

theorem monthOffset_le_of_le (leap : Bool) {earlier later : Nat} (hle : earlier ≤ later)
    (hlater : later ≤ 12) : monthOffset leap earlier ≤ monthOffset leap later := by
  induction later, hle using Nat.le_induction with
  | base => exact le_refl _
  | succ month _ ih => exact (ih (by omega)).trans (monthOffset_lt_succ leap (by omega)).le

/-- If a property is lost once and for all, those that have it come before their count. -/
theorem lt_countP_range_iff {property : Nat → Bool} {count : Nat}
    (hlost : ∀ earlier later, earlier ≤ later → later < count → property later = true →
      property earlier = true) {number : Nat} (hnumber : number < count) :
    property number = true ↔ number < (List.range count).countP property := by
  induction count with
  | zero => exact absurd hnumber (Nat.not_lt_zero number)
  | succ count ih =>
      rw [List.range_succ, List.countP_append, List.countP_singleton]
      by_cases hlast : property count = true
      · have hall : (List.range count).countP property = count := by
          rw [List.countP_eq_length.2, List.length_range]
          intro other hother
          exact hlost other count (List.mem_range.1 hother).le (Nat.lt_succ_self count) hlast
        rw [hall, if_pos hlast]
        exact iff_of_true (hlost number count (Nat.le_of_lt_succ hnumber) (Nat.lt_succ_self count)
          hlast) hnumber
      · rw [if_neg hlast, Nat.add_zero]
        rcases (Nat.le_of_lt_succ hnumber).eq_or_lt with rfl | hbefore
        · have hle : (List.range number).countP property ≤ number := by
            simpa using @List.countP_le_length _ property (List.range number)
          exact iff_of_false hlast (Nat.not_lt.2 hle)
        · exact ih (fun earlier later hle hlater => hlost earlier later hle (by omega)) hbefore

theorem monthsBegun_le (leap : Bool) (dayOfYear : Int) : monthsBegun leap dayOfYear ≤ 11 :=
  List.countP_le_length

/-- The months counted as begun are those whose first day has come. -/
theorem monthOffset_le_iff {leap : Bool} {dayOfYear : Int} {month : Nat} (hpos : 1 ≤ month)
    (hmonth : month ≤ 11) :
    monthOffset leap month ≤ dayOfYear ↔ month ≤ monthsBegun leap dayOfYear := by
  obtain ⟨number, rfl⟩ := Nat.exists_eq_add_of_le' hpos
  have hlost : ∀ earlier later, earlier ≤ later → later < 11 →
      decide (monthOffset leap (later + 1) ≤ dayOfYear) = true →
        decide (monthOffset leap (earlier + 1) ≤ dayOfYear) = true := by
    intro earlier later hle hlater hbegun
    rw [decide_eq_true_iff] at hbegun ⊢
    exact (monthOffset_le_of_le leap (by omega) (by omega)).trans hbegun
  exact decide_eq_true_iff.symm.trans (lt_countP_range_iff hlost hmonth)

theorem monthOffset_monthsBegun_le {leap : Bool} {dayOfYear : Int} (h : 0 ≤ dayOfYear) :
    monthOffset leap (monthsBegun leap dayOfYear) ≤ dayOfYear := by
  rcases Nat.eq_zero_or_pos (monthsBegun leap dayOfYear) with hzero | hpos
  · rw [hzero]
    exact h
  · exact (monthOffset_le_iff hpos (monthsBegun_le leap dayOfYear)).2 le_rfl

theorem lt_monthOffset_monthsBegun_succ {leap : Bool} {dayOfYear : Int}
    (h : dayOfYear < monthOffset leap 12) :
    dayOfYear < monthOffset leap (monthsBegun leap dayOfYear + 1) := by
  rcases (monthsBegun_le leap dayOfYear).eq_or_lt with hlast | hbefore
  · rw [hlast]
    exact h
  · by_contra hbegun
    have hle := (monthOffset_le_iff (by omega) (by omega)).1 (not_lt.1 hbegun)
    omega

/-! ## Months -/

/-- The first day of a month of a year; month 12 is the first one of the next year. -/
theorem monthStart_of_year (year : Int) {month : Nat} (h : month ≤ 12) :
    monthStart (12 * year + month) = yearStart year + monthOffset (isLeap year) month := by
  rcases h.eq_or_lt with rfl | hlt
  · have hyear : (12 * year + (12 : Nat)) / 12 = year + 1 := by omega
    have hmonth : ((12 * year + (12 : Nat)) % 12).toNat = 0 := by omega
    rw [monthStart, hyear, hmonth, yearStart_succ]
    exact Int.add_zero _
  · have hyear : (12 * year + month) / 12 = year := by omega
    have hmonth : ((12 * year + month) % 12).toNat = month := by omega
    rw [monthStart, hyear, hmonth]

theorem monthStart_succ_of_year (year : Int) {month : Nat} (h : month ≤ 11) :
    monthStart (12 * year + month + 1) =
      yearStart year + monthOffset (isLeap year) (month + 1) := by
  rw [← monthStart_of_year year (Nat.succ_le_succ h), Nat.cast_succ, Int.add_assoc]

theorem exists_month_of_year (month : Int) : ∃ (year : Int) (number : Nat),
    number ≤ 11 ∧ month = 12 * year + number :=
  ⟨month / 12, (month % 12).toNat, by omega, by omega⟩

theorem strictMono_monthStart : StrictMono monthStart := by
  apply strictMono_int_of_lt_succ
  intro month
  obtain ⟨year, number, hnumber, hmonth⟩ := exists_month_of_year month
  have hlt := monthOffset_lt_succ (isLeap year) (Nat.lt_succ_of_le hnumber)
  rw [hmonth, monthStart_succ_of_year year hnumber, monthStart_of_year year (by omega)]
  omega

theorem dayOfYear_between (day : Int) : 0 ≤ day - yearStart (yearOf day) ∧
    day - yearStart (yearOf day) < monthOffset (isLeap (yearOf day)) 12 := by
  have hyear := yearStart_yearOf day
  rw [yearStart_succ] at hyear
  omega

theorem monthStart_monthOf (day : Int) :
    monthStart (monthOf day) ≤ day ∧ day < monthStart (monthOf day + 1) := by
  obtain ⟨hpos, hlt⟩ := dayOfYear_between day
  have hmonth := monthsBegun_le (isLeap (yearOf day)) (day - yearStart (yearOf day))
  have hbegun := @monthOffset_monthsBegun_le (isLeap (yearOf day)) _ hpos
  have hnext := lt_monthOffset_monthsBegun_succ hlt
  rw [monthOf, monthStart_of_year _ (by omega), monthStart_succ_of_year _ hmonth]
  omega

/-- A month has begun on a day exactly if it is not after the month of the day. -/
theorem gc_monthStart : GaloisConnection monthStart monthOf :=
  galoisConnection_of_between strictMono_monthStart (fun day => (monthStart_monthOf day).1)
    fun day => (monthStart_monthOf day).2

theorem monthStart_mul_twelve (year : Int) : monthStart (12 * year) = yearStart year := by
  have hstart := monthStart_of_year year (Nat.zero_le 12)
  rw [Nat.cast_zero, Int.add_zero] at hstart
  rw [hstart]
  exact Int.add_zero _

theorem monthOf_div_twelve (day : Int) : monthOf day / 12 = yearOf day := by
  have hle := monthsBegun_le (isLeap (yearOf day)) (day - yearStart (yearOf day))
  rw [monthOf]
  omega

theorem monthLength_pos (month : Int) : 0 < monthLength month :=
  Int.sub_pos_of_lt (strictMono_monthStart (Int.lt_succ month))

theorem monthOffset_succ_le (leap : Bool) {month : Nat} (h : month < 12) :
    monthOffset leap (month + 1) ≤ monthOffset leap month + 31 := by
  interval_cases month <;> cases leap <;> decide

theorem monthLength_le (month : Int) : monthLength month ≤ 31 := by
  obtain ⟨year, number, hnumber, rfl⟩ := exists_month_of_year month
  have hle := monthOffset_succ_le (isLeap year) (Nat.lt_succ_of_le hnumber)
  rw [monthLength, monthStart_succ_of_year year hnumber, monthStart_of_year year (by omega)]
  omega

/-! ## Dates -/

namespace Date

variable (date : Date)

theorem year_between : 1 ≤ date.year ∧ date.year ≤ 9999 := by
  have hfirst : yearStart 1 ≤ date.day := date.inRange.1
  have hlast : date.day < yearStart 10000 := date.inRange.2
  exact ⟨gc_yearStart.le_iff_le.1 hfirst, Int.lt_add_one_iff.1 (gc_yearStart.lt_iff_lt.1 hlast)⟩

theorem month_between : 1 ≤ date.month ∧ date.month ≤ 12 := by
  unfold month
  omega

theorem dayOfMonth_between :
    1 ≤ date.dayOfMonth ∧ date.dayOfMonth ≤ monthLength (monthOf date.day) := by
  have hmonth := monthStart_monthOf date.day
  unfold dayOfMonth monthLength
  omega

/-- The count of a month from its year and its number in the year. -/
theorem monthOf_eq : 12 * date.year + (date.month - 1) = monthOf date.day := by
  have hyear := monthOf_div_twelve date.day
  unfold year month
  omega

/-- A date is the one with its year, month and day of the month. -/
theorem ofFields_fields : ofFields date.year date.month date.dayOfMonth = .ok date := by
  have hmonth := date.monthOf_eq
  have hday : monthStart (monthOf date.day) + (date.dayOfMonth - 1) = date.day := by
    unfold dayOfMonth
    omega
  have hyears := date.year_between
  have hmonths := date.month_between
  have hdays := date.dayOfMonth_between
  unfold ofFields
  dsimp only
  rw [if_neg (by omega), if_neg (by omega), hmonth, if_neg (by omega), hday, ofDay?,
    dif_pos date.inRange]

end Date

end AnalyticsQuery.Calendar
