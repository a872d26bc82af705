import AnalyticsQuery.DateRange
import AnalyticsQuery.Proofs.Calendar.IsoText

/-!
# Days in the API's date language

The API reads a bound as `today`, `yesterday`, a number of days ago, or a date.  Bounds are
written so that it reads the day that was meant, and a range contains the days between the
ones that it reads.
-/

namespace AnalyticsQuery

open Calendar (Bounds Date)

namespace DateText

/-- The day named by a number and the text behind it: that many days ago, or a date in
that year. -/
def afterNumber? (today : Int) (number : Nat) : List Char → Option Int
  | ['-', monthTens, monthOnes, '-', dayTens, dayOnes] => do
      let month ← Numeral.readDigits? [monthTens, monthOnes]
      let dayOfMonth ← Numeral.readDigits? [dayTens, dayOnes]
      let date ← (Date.ofFields number month dayOfMonth).toOption
      return date.day
  | rest => if rest = "daysAgo".toList then some (today - number) else none

/-- The day named by a text, if today is the day `today`. -/
def day? (today : Int) (text : String) : Option Int :=
  if text = "today" then some today
  else if text = "yesterday" then some (today - 1)
  else do
    let number ← Numeral.readDigits? (text.toList.takeWhile Char.isDigit)
    afterNumber? today number (text.toList.dropWhile Char.isDigit)

variable {today : Int}

/-- A text that begins with a number is none of the words, and is divided behind the number. -/
theorem day?_of_number {text : String} {numeral rest : List Char} {number : Nat}
    (htext : text.toList = numeral ++ rest) (hnumber : Numeral.readDigits? numeral = some number)
    (hdigits : ∀ char ∈ numeral, char.isDigit = true)
    (hrest : ∀ char ∈ rest.head?, char.isDigit = false) :
    day? today text = afterNumber? today number rest := by
  have hword : ∀ (first : Char) (others : List Char), first.isDigit = false →
      text ≠ String.ofList (first :: others) := by
    rintro first others hfirst rfl
    rw [String.toList_ofList] at htext
    cases numeral with
    | nil => exact nomatch hnumber
    | cons char chars =>
        have hdigit := hdigits char List.mem_cons_self
        rw [← (List.cons.inj htext).1, hfirst] at hdigit
        exact Bool.false_ne_true hdigit
  have htake : rest.takeWhile Char.isDigit = [] ∧ rest.dropWhile Char.isDigit = rest := by
    cases rest with
    | nil => exact ⟨rfl, rfl⟩
    | cons char chars =>
        have hchar := hrest char rfl
        exact ⟨List.takeWhile_cons_of_neg (by simp [hchar]),
          List.dropWhile_cons_of_neg (by simp [hchar])⟩
  have htoday : text ≠ "today" := hword 't' "oday".toList rfl
  have hyesterday : text ≠ "yesterday" := hword 'y' "esterday".toList rfl
  rw [day?, if_neg htoday, if_neg hyesterday, htext, List.takeWhile_append_of_pos hdigits,
    List.dropWhile_append_of_pos hdigits, htake.1, htake.2, List.append_nil, hnumber]
  rfl

/-- From two on, days are counted by a number. -/
theorem toList_daysAgoText (count : Nat) : (DayBound.daysAgoText (count + 2)).toList =
    Numeral.digits (count + 2) ++ "daysAgo".toList := by
  change (Numeral.natText (count + 2) ++ "daysAgo").toList = _
  rw [String.toList_append, Numeral.natText, String.toList_ofList]

theorem day?_daysAgoText (count : Nat) :
    day? today (DayBound.daysAgoText count) = some (today - count) := by
  match count with
  | 0 => exact congrArg some (Int.sub_zero today).symm
  | 1 => rfl
  | count + 2 =>
      have hrest : ∀ char ∈ "daysAgo".toList.head?, char.isDigit = false := by
        intro char hchar
        rw [← Option.some.inj hchar]
        rfl
      rw [day?_of_number (toList_daysAgoText count) (Numeral.readDigits?_digits _)
        (fun char => Numeral.isDigit_of_mem_digits) hrest]
      rfl

theorem day?_requestText (date : Date) : day? today date.requestText = some date.day := by
  obtain ⟨monthTens, monthOnes, hmonthText⟩ := List.length_eq_two.1 date.length_padded_month
  obtain ⟨dayTens, dayOnes, hdayText⟩ := List.length_eq_two.1 date.length_padded_dayOfMonth
  have htext : date.requestText.toList = Numeral.digits date.year.toNat ++
      ['-', monthTens, monthOnes, '-', dayTens, dayOnes] := by
    rw [date.toList_requestText, hmonthText, hdayText]
    rfl
  have hrest : ∀ char ∈ ['-', monthTens, monthOnes, '-', dayTens, dayOnes].head?,
      char.isDigit = false := by
    intro char hchar
    rw [← Option.some.inj hchar]
    rfl
  rw [day?_of_number htext (Numeral.readDigits?_digits _)
    (fun char => Numeral.isDigit_of_mem_digits) hrest, afterNumber?, ← hmonthText, ← hdayText,
    Numeral.readDigits?_padded, Numeral.readDigits?_padded]
  simp only [Option.bind_eq_bind, Option.bind_some, date.ofFields_toNat]
  rfl

end DateText

/-! ## Days of a range -/

/-- The day that a bound means. -/
def DayBound.day? (today : Int) : DayBound → Option Int
  | daysAgo count => some (today - count)
  | date day => some day.day
  | text value => DateText.day? today value

/-- A bound is written as a text that names its day. -/
theorem DayBound.day?_toText (today : Int) (bound : DayBound) :
    DateText.day? today bound.toText = bound.day? today := by
  cases bound with
  | daysAgo count => exact DateText.day?_daysAgoText count
  | date day => exact DateText.day?_requestText day
  | text value => rfl

namespace DateRange

/-- The days from the first to the last one that a range names, where it names one. -/
def Contains (today : Int) (range : DateRange) (day : Int) : Prop :=
  (∀ text, range.first = some text → ∃ first, DateText.day? today text = some first ∧ first ≤ day) ∧
    ∀ text, range.last = some text → ∃ last, DateText.day? today text = some last ∧ day ≤ last

/-- Written bounds limit the same days as the days that they mean. -/
theorem contains_ofBounds {today : Int} {bounds : Bounds DayBound} {days : Bounds Int}
    (h : bounds.map (DayBound.day? today) = days.map some) (day : Int) :
    (ofBounds bounds).Contains today day ↔ days.Contains day := by
  obtain ⟨lower, upper⟩ := bounds
  obtain ⟨first, last⟩ := days
  obtain ⟨hlower, hupper⟩ := Bounds.mk.inj h
  apply and_congr
  · cases lower with
    | none => cases first with
      | none => exact iff_of_true nofun nofun
      | some first => exact nomatch hlower
    | some lower => cases first with
      | none => exact nomatch hlower
      | some first =>
          have hday := (lower.day?_toText today).trans (Option.some.inj hlower)
          simp [ofBounds, hday]
  · cases upper with
    | none => cases last with
      | none => exact iff_of_true nofun nofun
      | some last => exact nomatch hupper
    | some upper => cases last with
      | none => exact nomatch hupper
      | some last =>
          have hday := (upper.day?_toText today).trans (Option.some.inj hupper)
          simp [ofBounds, hday]

end DateRange

end AnalyticsQuery
