import AnalyticsQuery.Proofs.Calendar.Compared
import AnalyticsQuery.Proofs.Compile.Clock
import AnalyticsQuery.Proofs.DateRange.Days

/-!
# The API's date language

A bound that is computed from a moment is a number of days counted back from today, or a
date.  Each is written in the form that the API fixes for it, and no two alike.  Only a
date before the year 1000 misses its form: its year is too short to be read.
-/

namespace AnalyticsQuery

open Calendar (Bounds CalendarUnit Date TimeRelation WallTime)
open Fallible
open Numeral (readDigits?)

/-! ## Forms of a bound -/

namespace DayBound

/-- Whether a bound is a day, and no text that a filter compares with. -/
def isDay : DayBound → Bool
  | daysAgo _ => true
  | date _ => true
  | text _ => false

/-- The forms of the date language: two words, a plain number of days from two on, and a
date in ten characters that is read as that date. -/
inductive WrittenAs : DayBound → String → Prop
  | today : WrittenAs (daysAgo 0) "today"
  | yesterday : WrittenAs (daysAgo 1) "yesterday"
  | daysAgo {count : Nat} {numeral : List Char} {text : String} (hcount : 2 ≤ count)
      (hdigits : ∀ char ∈ numeral, char.isDigit = true) (hplain : numeral.head? ≠ some '0')
      (hvalue : readDigits? numeral = some count)
      (htext : text.toList = numeral ++ "daysAgo".toList) : WrittenAs (daysAgo count) text
  | date {day : Date} {text : String} (hshape : Date.IsTenCharacters text)
      (hread : Calendar.Iso.readDate text = .ok day) : WrittenAs (date day) text

theorem writtenAs_daysAgo (count : Nat) : (daysAgo count).WrittenAs (daysAgoText count) := by
  match count with
  | 0 => exact .today
  | 1 => exact .yesterday
  | count + 2 =>
      refine .daysAgo (Nat.le_add_left 2 count)
        (fun char => Numeral.isDigit_of_mem_digits)
        (Numeral.head?_digits (Nat.succ_ne_zero _)) (Numeral.readDigits?_digits _) ?_
      exact DateText.toList_daysAgoText count

theorem writtenAs_date_iff (day : Date) :
    (date day).WrittenAs day.requestText ↔ 1000 ≤ day.year := by
  constructor
  · intro h
    cases h with
    | date hshape hread => exact day.isTenCharacters_requestText_iff.1 hshape
  · intro hyear
    refine .date (day.isTenCharacters_requestText_iff.2 hyear) ?_
    rw [Date.requestText_eq_isoText hyear]
    exact day.readDate_isoText

/-- A day is written in its form unless it is a date before the year 1000. -/
theorem writtenAs_toText_iff {bound : DayBound} (h : bound.isDay = true) :
    bound.WrittenAs bound.toText ↔ ∀ day, bound = .date day → 1000 ≤ day.year := by
  cases bound with
  | daysAgo count => exact iff_of_true (writtenAs_daysAgo count) fun day hday => nomatch hday
  | date day =>
      rw [toText, writtenAs_date_iff]
      simp
  | text value => exact nomatch h

/-- A day counted back from today moves with today, and a date does not. -/
theorem not_forall_day?_eq (count : Nat) (day : Date) :
    ¬∀ today, (daysAgo count).day? today = (date day).day? today := by
  intro h
  have hfirst : (0 : Int) - count = day.day := Option.some.inj (h 0)
  have hsecond : (1 : Int) - count = day.day := Option.some.inj (h 1)
  omega

/-- No two days are written alike. -/
theorem eq_of_toText_eq {left right : DayBound} (hleft : left.isDay = true)
    (hright : right.isDay = true) (h : left.toText = right.toText) : left = right := by
  have hdays : ∀ today, left.day? today = right.day? today := by
    intro today
    rw [← left.day?_toText, ← right.day?_toText, h]
  cases left with
  | text value => exact nomatch hleft
  | daysAgo count =>
      cases right with
      | text value => exact nomatch hright
      | daysAgo other =>
          have hcounts : (0 : Int) - count = 0 - other := Option.some.inj (hdays 0)
          rw [Int.ofNat_inj.1 ((Int.sub_right_inj 0).1 hcounts)]
      | date day => exact absurd hdays (not_forall_day?_eq count day)
  | date day =>
      cases right with
      | text value => exact nomatch hright
      | daysAgo count =>
          exact absurd (fun today => (hdays today).symm) (not_forall_day?_eq count day)
      | date other => rw [Date.day_injective (Option.some.inj (hdays 0))]

end DayBound

/-! ## Bounds of moments -/

/-- Whether all conditions of the date range compare with moments. -/
def Filter.ComparesMoments (filter : Filter) : Prop :=
  ∀ leaf ∈ filter.leaves, leaf.isDateRange = true →
    ∀ operand ∈ leaf.operands, operand.unit?.isSome = true

/-- The bound at one end, before it is written down. -/
def Calendar.Bounds.on {α : Type} (bounds : Bounds α) : DateRange.Side → Option α
  | .first => bounds.lower
  | .last => bounds.upper

theorem DateRange.bound_ofBounds (bounds : Bounds DayBound) (side : Side) :
    (ofBounds bounds).bound side = (bounds.on side).map DayBound.toText := by
  cases side <;> rfl

/-- A restricted bound is gone or what it was. -/
theorem Calendar.Bounds.mem_of_mem_restrict {α : Type} {bounds : Bounds α}
    {relation : TimeRelation} {side : DateRange.Side} {bound : α}
    (h : bound ∈ (relation.restrict bounds).on side) : bound ∈ bounds.on side := by
  cases relation <;> cases side <;> simp_all [TimeRelation.restrict, on]

/-- Whether all bounds are days. -/
def Calendar.Bounds.AllDays (bounds : Bounds DayBound) : Prop :=
  ∀ side, ∀ bound ∈ bounds.on side, bound.isDay = true

namespace Compiler

variable {compiler : Compiler} {filter : Filter} {leaf : Condition} {range : DateRange}

theorem allDays_relativeDayBounds? {relation : TimeRelation} {offset : Int}
    {bounds : Bounds DayBound} (h : relativeDayBounds? relation offset = some bounds) :
    bounds.AllDays := by
  obtain ⟨_, hbounds⟩ := Option.ite_none_left_eq_some.1 h
  rw [← Option.some.inj hbounds]
  intro side bound hbound
  have hcounted := Bounds.mem_of_mem_restrict hbound
  cases side <;> (rw [← Option.some.inj hcounted]; rfl)

theorem allDays_bucketBounds {relation : TimeRelation} {unit : CalendarUnit} {time : WallTime}
    {bounds : Bounds DayBound} (h : bucketBounds relation unit time = .ok bounds) :
    bounds.AllDays := by
  obtain ⟨days, _, hbounds⟩ := bind_eq_ok_iff.1 h
  rw [← Except.ok.inj hbounds]
  intro side bound hbound
  have hdate : (days.on side).map DayBound.date = some bound := by
    cases side <;> exact hbound
  obtain ⟨date, _, rfl⟩ := Option.map_eq_some_iff.1 hdate
  rfl

/-- The bounds of a moment are days. -/
theorem allDays_operandBounds {relation : TimeRelation} {unit : CalendarUnit}
    {operand : Operand} {bounds : Bounds DayBound} (hmoment : operand.unit?.isSome = true)
    (h : compiler.operandBounds relation unit operand = .ok bounds) : bounds.AllDays := by
  cases operand with
  | literal value typeInfo => exact nomatch hmoment
  | absolute timestamp valueUnit =>
      obtain ⟨time, _, hbounds⟩ := bind_eq_ok_iff.1 h
      exact allDays_bucketBounds hbounds
  | relative amount valueUnit =>
      rcases operandBounds_relative h with ⟨_, hdays, _⟩ | ⟨_, time, _, hbounds⟩
      · exact allDays_relativeDayBounds? hdays
      · exact allDays_bucketBounds hbounds

theorem allDays_conditionBounds {bounds : Bounds DayBound}
    (hmoments : ∀ operand ∈ leaf.operands, operand.unit?.isSome = true)
    (h : compiler.conditionBounds leaf = .ok (some bounds)) : bounds.AllDays := by
  cases leaf with
  | comparison operator field value =>
      cases field with
      | plain field => exact nomatch Except.ok.inj h
      | bucketed field unit =>
          have hvalue := hmoments value (List.mem_singleton_self value)
          cases hrelation : operator.timeRelation? with
          | none =>
              simp only [conditionBounds, hrelation] at h
              exact nomatch Except.ok.inj h
          | some relation =>
              simp only [conditionBounds, hrelation] at h
              obtain ⟨found, hfound, hbounds⟩ := bind_eq_ok_iff.1 h
              rw [← Option.some.inj (Except.ok.inj hbounds)]
              exact allDays_operandBounds hvalue hfound
  | between field lower upper =>
      cases field with
      | plain field => exact nomatch Except.ok.inj h
      | bucketed field unit =>
          obtain ⟨lowerBounds, hlower, hrest⟩ := bind_eq_ok_iff.1 h
          obtain ⟨upperBounds, hupper, hbounds⟩ := bind_eq_ok_iff.1 hrest
          rw [← Option.some.inj (Except.ok.inj hbounds)]
          have hlowerMoment := hmoments lower List.mem_cons_self
          have hupperMoment := hmoments upper (List.mem_cons_of_mem _ List.mem_cons_self)
          intro side
          cases side with
          | first => exact allDays_operandBounds hlowerMoment hlower .first
          | last => exact allDays_operandBounds hupperMoment hupper .last
  | textMatch operator field value caseSensitive => exact nomatch Except.ok.inj h
  | segment id => exact nomatch Except.ok.inj h

theorem isDateRange_of_conditionBounds {bounds : Bounds DayBound}
    (h : compiler.conditionBounds leaf = .ok (some bounds)) : leaf.isDateRange = true := by
  by_contra hdate
  rw [conditionBounds_of_not_dateRange (eq_false_of_ne_true hdate)] at h
  exact nomatch h

/-- Each bound of a range is written from a bound of a condition. -/
theorem exists_bound_of_dateRange (hdates : filter.hasDateRange = true)
    (h : compiler.dateRange (some filter) = .ok range) {side : DateRange.Side} {text : String}
    (hbound : range.bound side = some text) :
    ∃ leaf ∈ filter.leaves, leaf.isDateRange = true ∧ ∃ bounds bound,
      compiler.conditionBounds leaf = .ok (some bounds) ∧ bounds.on side = some bound ∧
        bound.toText = text := by
  obtain ⟨result, hresult, rfl⟩ := dateRange_eq_ok_iff.1 h
  obtain ⟨_, _, hcollects⟩ := collects_of_filterRange hresult
  cases result with
  | none => exact absurd hdates (by rw [Filter.hasDateRange, hcollects]; exact Bool.false_ne_true)
  | some whole =>
      have hmem := (hcollects.2 side text).1 hbound
      rw [impliedTexts, List.mem_filterMap] at hmem
      obtain ⟨leaf, hleaf, htext⟩ := hmem
      rw [conditionRange_normalizeUnits] at htext
      cases hrange : compiler.conditionRange leaf with
      | error error => simp [hrange] at htext
      | ok result =>
          obtain ⟨found, hfound, hranges⟩ := bind_eq_ok_iff.1 hrange
          rw [hrange, ← Except.ok.inj hranges] at htext
          cases found with
          | none => simp at htext
          | some bounds =>
              have hon : ((bounds.on side).map DayBound.toText) = some text := by
                rw [← DateRange.bound_ofBounds]
                exact htext
              obtain ⟨bound, hbounds, hwritten⟩ := Option.map_eq_some_iff.1 hon
              exact ⟨leaf, hleaf, isDateRange_of_conditionBounds hfound, bounds, bound, hfound,
                hbounds, hwritten⟩

/-! ## Bounds that are computed -/

/-- Each bound that a filter computes from a moment is a day, and its text names that day.
The text has the form that the date language fixes for the day, unless the day is a date
before the year 1000, whose text is no date to the reader.  No two days share a text. -/
theorem writtenAs_of_dateRange_iff (hmoments : filter.ComparesMoments)
    (hdates : filter.hasDateRange = true) (h : compiler.dateRange (some filter) = .ok range) :
    (∀ side text, range.bound side = some text →
      ∃ leaf ∈ filter.leaves, ∃ bounds bound,
        compiler.conditionBounds leaf = .ok (some bounds) ∧ bounds.on side = some bound ∧
          bound.toText = text ∧ bound.isDay = true ∧
            (∀ today, DateText.day? today text = bound.day? today) ∧
              (bound.WrittenAs text ↔ ∀ day, bound = .date day → 1000 ≤ day.year) ∧
                ∀ day, bound = .date day → day.year < 1000 →
                  Calendar.Iso.readDate text = .error .malformed) ∧
      ∀ left right : DayBound, left.isDay = true → right.isDay = true →
        left.toText = right.toText → left = right := by
  refine ⟨?_, fun left right hleft hright hsame => DayBound.eq_of_toText_eq hleft hright hsame⟩
  intro side text hbound
  obtain ⟨leaf, hleaf, hdate, bounds, bound, hbounds, hon, rfl⟩ :=
    exists_bound_of_dateRange hdates h hbound
  have hday : bound.isDay = true :=
    allDays_conditionBounds (hmoments leaf hleaf hdate) hbounds side bound hon
  refine ⟨leaf, hleaf, bounds, bound, hbounds, hon, rfl, hday, bound.day?_toText,
    DayBound.writtenAs_toText_iff hday, ?_⟩
  rintro day rfl hyear
  exact Date.readDate_requestText_of_lt hyear

/-- From a week ago to the end of January 2020. -/
theorem writtenAs_of_dateRange_january :
    let january : Date := ⟨737454, by decide⟩
    let filter : Filter := .condition (.between (.bucketed (.id 7) .day) (.relative (-7) .day)
      (.absolute (.naive (WallTime.midnight january)) .day))
    bare.dateRange (some filter) = .ok ⟨some "7daysAgo", some "2020-01-31"⟩ ∧
      (DayBound.daysAgo 7).WrittenAs "7daysAgo" ∧
        (DayBound.date january).WrittenAs "2020-01-31" := by
  intro january filter
  have hrange : bare.dateRange (some filter) = .ok ⟨some "7daysAgo", some "2020-01-31"⟩ := by
    decide +kernel
  have hmoments : filter.ComparesMoments := by
    intro leaf hleaf _
    rw [List.mem_singleton.1 hleaf]
    decide
  obtain ⟨hwritten, hdistinct⟩ := writtenAs_of_dateRange_iff hmoments rfl hrange
  refine ⟨hrange, ?_, ?_⟩
  · obtain ⟨_, _, _, bound, _, _, htext, hday, _, hform, _⟩ := hwritten .first _ rfl
    obtain rfl := hdistinct bound (.daysAgo 7) hday rfl (htext.trans (by decide +kernel))
    exact hform.2 fun day hsame => nomatch hsame
  · obtain ⟨_, _, _, bound, _, _, htext, hday, _, hform, _⟩ := hwritten .last _ rfl
    obtain rfl := hdistinct bound (.date january) hday rfl (htext.trans (by decide +kernel))
    have hyear : 1000 ≤ january.year := by decide +kernel
    exact hform.2 fun day hsame => DayBound.date.inj hsame ▸ hyear

/-- A day of the year 999 is written in nine characters, which is no form of any bound. -/
theorem not_writtenAs_short_year :
    let day : Date := ⟨364677, by decide⟩
    let filter : Filter := .condition (.comparison .equal
      (.bucketed (.literal "ga:date") .day) (.absolute (.naive (WallTime.midnight day)) .day))
    Date.ofFields 999 6 15 = .ok day ∧ filter.ComparesMoments ∧
      bare.dateRange (some filter) = .ok ⟨some "999-06-15", some "999-06-15"⟩ ∧
        ∀ bound : DayBound, ¬bound.WrittenAs "999-06-15" := by
  intro day filter
  refine ⟨by decide +kernel, ?_, by decide +kernel, ?_⟩
  · intro leaf hleaf _
    rw [List.mem_singleton.1 hleaf]
    decide
  · have hform : ∀ (bound : DayBound) (text : String), bound.WrittenAs text →
        text ≠ "999-06-15" := by
      intro bound text h
      cases h with
      | today => decide
      | yesterday => decide
      | @daysAgo count numeral text hcount hdigits hplain hvalue htext =>
          rintro rfl
          have hlast := congrArg List.getLast? htext
          rw [List.getLast?_append] at hlast
          exact nomatch hlast
      | date hshape hread =>
          rintro rfl
          exact nomatch Date.length_of_isTenCharacters hshape
    exact fun bound h => hform bound _ h rfl

end Compiler

end AnalyticsQuery
