import AnalyticsQuery.Calendar.Iso
import AnalyticsQuery.Proofs.Calendar.Bucket
import AnalyticsQuery.Proofs.Text.Numeral

/-!
# Dates in ten characters

A date with a four-digit year is read back as that date.  Requests leave out the zeros in
front of a year, so that theirs is the same text from the year 1000 on, and before it a
shorter one that is no date to the reader.
-/

namespace AnalyticsQuery

open Numeral (digits padded takeDigits?)

/-! ## Texts of single bytes -/

theorem utf8Size_eq_one {char : Char} (h : char.isDigit = true ∨ char = '-') :
    char.utf8Size = 1 := by
  rcases h with hdigit | rfl
  · rw [Char.isDigit, Bool.and_eq_true, decide_eq_true_eq, decide_eq_true_eq] at hdigit
    have hnine : (57 : UInt32) ≤ 0x7f := by decide
    exact if_pos (UInt32.le_trans hdigit.2 hnine)
  · rfl

theorem utf8Len_eq_length {chars : List Char}
    (h : ∀ char ∈ chars, char.isDigit = true ∨ char = '-') :
    String.utf8Len chars = chars.length := by
  induction chars with
  | nil => rfl
  | cons char chars ih =>
      have hrest := ih fun other hother => h other (List.mem_cons_of_mem _ hother)
      rw [String.utf8Len_cons, hrest, utf8Size_eq_one (h char List.mem_cons_self),
        List.length_cons]

namespace Calendar.Date

variable {date : Date}

/-- Year, month and day of month in four, two and two digits. -/
def IsTenCharacters (text : String) : Prop :=
  ∃ year month dayOfMonth : List Char,
    year.length = 4 ∧ month.length = 2 ∧ dayOfMonth.length = 2 ∧
      (∀ char ∈ year ++ month ++ dayOfMonth, char.isDigit = true) ∧
        text.toList = year ++ '-' :: (month ++ '-' :: dayOfMonth)

theorem length_of_isTenCharacters {text : String} (h : IsTenCharacters text) :
    text.toList.length = 10 := by
  obtain ⟨year, month, dayOfMonth, hyear, hmonth, hday, -, htext⟩ := h
  simp [htext, hyear, hmonth, hday]

theorem utf8ByteSize_of_isTenCharacters {text : String} (h : IsTenCharacters text) :
    text.utf8ByteSize = 10 := by
  have hlength := length_of_isTenCharacters h
  obtain ⟨year, month, dayOfMonth, -, -, -, hdigits, htext⟩ := h
  have hchars : ∀ char ∈ text.toList, char.isDigit = true ∨ char = '-' := by
    intro char hchar
    simp only [htext, List.mem_append, List.mem_cons] at hchar hdigits
    rcases hchar with hyear | rfl | hmonth | rfl | hday
    · exact .inl (hdigits char (.inl (.inl hyear)))
    · exact .inr rfl
    · exact .inl (hdigits char (.inl (.inr hmonth)))
    · exact .inr rfl
    · exact .inl (hdigits char (.inr hday))
  rw [← String.ofList_toList (s := text), String.utf8ByteSize_ofList, utf8Len_eq_length hchars,
    hlength]

/-! ## Fields as digits -/

theorem length_padded_year (date : Date) : (padded 4 date.year.toNat).toList.length = 4 := by
  obtain ⟨_, hyear⟩ := date.year_between
  exact Numeral.length_padded ((Nat.length_toDigits_le_iff (by decide) (by decide)).2 (by omega))

theorem length_padded_month (date : Date) : (padded 2 date.month.toNat).toList.length = 2 := by
  obtain ⟨_, hmonth⟩ := date.month_between
  exact Numeral.length_padded (Numeral.length_digits_le_two (by omega))

theorem length_padded_dayOfMonth (date : Date) :
    (padded 2 date.dayOfMonth.toNat).toList.length = 2 := by
  obtain ⟨_, hday⟩ := date.dayOfMonth_between
  have hlength := monthLength_le (monthOf date.day)
  exact Numeral.length_padded (Numeral.length_digits_le_two (by omega))

theorem ofFields_toNat (date : Date) :
    ofFields (date.year.toNat : Int) (date.month.toNat : Int) (date.dayOfMonth.toNat : Int) =
      .ok date := by
  obtain ⟨hyear, _⟩ := date.year_between
  obtain ⟨hmonth, _⟩ := date.month_between
  obtain ⟨hday, _⟩ := date.dayOfMonth_between
  rw [Int.toNat_of_nonneg (by omega), Int.toNat_of_nonneg (by omega),
    Int.toNat_of_nonneg (by omega)]
  exact date.ofFields_fields

theorem toList_isoText (date : Date) : date.isoText.toList =
    (padded 4 date.year.toNat).toList ++ '-' :: ((padded 2 date.month.toNat).toList ++
      '-' :: (padded 2 date.dayOfMonth.toNat).toList) := by
  simp [isoText, String.toList_append]

theorem isTenCharacters_isoText (date : Date) : IsTenCharacters date.isoText := by
  refine ⟨_, _, _, date.length_padded_year, date.length_padded_month,
    date.length_padded_dayOfMonth, ?_, date.toList_isoText⟩
  intro char hchar
  simp only [List.mem_append] at hchar
  rcases hchar with (hyear | hmonth) | hday
  · exact Numeral.isDigit_of_mem_padded hyear
  · exact Numeral.isDigit_of_mem_padded hmonth
  · exact Numeral.isDigit_of_mem_padded hday

theorem readMonthDate_fields (date : Date) :
    Iso.readMonthDate date.year.toNat true ((padded 2 date.month.toNat).toList ++
      '-' :: (padded 2 date.dayOfMonth.toNat).toList) = .ok date := by
  have hday := Numeral.takeDigits?_append date.length_padded_dayOfMonth
    (Numeral.readDigits?_padded 2 date.dayOfMonth.toNat) []
  rw [List.append_nil] at hday
  rw [Iso.readMonthDate, Numeral.takeDigits?_append date.length_padded_month
    (Numeral.readDigits?_padded 2 date.month.toNat)]
  simp only [List.head?_cons, List.drop_succ_cons, List.drop_zero, if_true, hday, ofFields_toNat]
  rfl

/-- A date in ten characters is read back. -/
theorem readDate_isoText (date : Date) : Iso.readDate date.isoText = .ok date := by
  have hsize := utf8ByteSize_of_isTenCharacters date.isTenCharacters_isoText
  rw [Iso.readDate, hsize, if_neg (by decide), toList_isoText,
    Numeral.takeDigits?_append date.length_padded_year
      (Numeral.readDigits?_padded 4 date.year.toNat)]
  simp only [List.head?_cons, List.drop_succ_cons, List.drop_zero, decide_true, if_true]
  split
  · -- The month does not start with the letter of a week.
    rename_i hweek
    obtain ⟨tens, ones, hmonth⟩ := List.length_eq_two.1 date.length_padded_month
    rw [hmonth, List.cons_append] at hweek
    have hdigit : tens.isDigit = true :=
      Numeral.isDigit_of_mem_padded (hmonth ▸ List.mem_cons_self)
    rw [(List.cons.inj hweek).1] at hdigit
    exact nomatch hdigit
  · exact date.readMonthDate_fields

/-! ## The text of requests -/

theorem length_digits_year_iff (date : Date) :
    4 ≤ (digits date.year.toNat).length ↔ 1000 ≤ date.year := by
  have hshort : (digits date.year.toNat).length ≤ 3 ↔ date.year.toNat < 10 ^ 3 :=
    Nat.length_toDigits_le_iff (by decide) (by decide)
  omega

/-- From the year 1000 on there are no zeros to leave out. -/
theorem requestText_eq_isoText (h : 1000 ≤ date.year) : date.requestText = date.isoText := by
  have hyear : padded 4 date.year.toNat = Numeral.natText date.year.toNat := by
    rw [padded, Nat.sub_eq_zero_of_le (date.length_digits_year_iff.2 h)]
    rfl
  rw [requestText, isoText, hyear]

theorem toList_requestText (date : Date) : date.requestText.toList =
    digits date.year.toNat ++ '-' :: ((padded 2 date.month.toNat).toList ++
      '-' :: (padded 2 date.dayOfMonth.toNat).toList) := by
  simp [requestText, Numeral.natText, String.toList_append]

theorem length_requestText (date : Date) :
    date.requestText.toList.length = (digits date.year.toNat).length + 6 := by
  rw [toList_requestText, List.length_append, List.length_cons, List.length_append,
    List.length_cons, length_padded_month, length_padded_dayOfMonth]

/-- The text of a request has ten characters exactly from the year 1000 on. -/
theorem isTenCharacters_requestText_iff (date : Date) :
    IsTenCharacters date.requestText ↔ 1000 ≤ date.year := by
  constructor
  · intro h
    have hlength := length_of_isTenCharacters h
    rw [length_requestText] at hlength
    exact date.length_digits_year_iff.1 (by omega)
  · intro h
    rw [requestText_eq_isoText h]
    exact date.isTenCharacters_isoText

/-- Before the year 1000 the first four characters are no year. -/
theorem readDate_requestText_of_lt (h : date.year < 1000) :
    Iso.readDate date.requestText = .error .malformed := by
  have hshort : (digits date.year.toNat).length < 4 :=
    Nat.lt_of_not_le fun hlong => Int.not_le.2 h (date.length_digits_year_iff.1 hlong)
  have hdash : '-' ∈ date.requestText.toList.take 4 := by
    obtain ⟨more, hmore⟩ := Nat.exists_eq_add_of_lt hshort
    have hleft : 4 - (digits date.year.toNat).length = more + 1 := by omega
    rw [toList_requestText, List.take_append, hleft, List.take_succ_cons]
    exact List.mem_append_right _ List.mem_cons_self
  have hyear : takeDigits? 4 date.requestText.toList = none := by
    rw [takeDigits?, Numeral.readDigits?_eq_none hdash rfl]
    exact ite_self _
  rw [Iso.readDate, hyear]
  exact ite_self _

end Calendar.Date

end AnalyticsQuery
