import AnalyticsQuery.Text.Numeral

/-!
# Reading what was written as a numeral

The digits of a number are read back as the number, with and without zeros in front.
-/

namespace AnalyticsQuery.Numeral

theorem digit?_eq_some {char : Char} (h : char.isDigit = true) :
    digit? char = some (char.toNat - '0'.toNat) := by
  rw [Char.isDigit, Bool.and_eq_true, decide_eq_true_eq, decide_eq_true_eq] at h
  exact if_pos h

theorem foldlM_digits {chars : List Char} (h : ∀ char ∈ chars, char.isDigit = true)
    (value : Nat) :
    chars.foldlM (fun value char => (digit? char).map (10 * value + ·)) value =
      some (Nat.ofDigitChars 10 chars value) := by
  induction chars generalizing value with
  | nil => rfl
  | cons char chars ih =>
      have hrest := ih fun other hother => h other (List.mem_cons_of_mem _ hother)
      rw [List.foldlM_cons, digit?_eq_some (h char List.mem_cons_self), Nat.ofDigitChars_cons]
      exact hrest _

theorem readDigits?_eq_some {chars : List Char} (hne : chars ≠ [])
    (h : ∀ char ∈ chars, char.isDigit = true) :
    readDigits? chars = some (Nat.ofDigitChars 10 chars 0) := by
  obtain ⟨char, others, rfl⟩ := List.exists_cons_of_ne_nil hne
  exact foldlM_digits h 0

theorem isDigit_of_mem_digits {value : Nat} {char : Char} (h : char ∈ digits value) :
    char.isDigit = true :=
  Nat.isDigit_of_mem_toDigits (by decide) (by decide) h

theorem digits_ne_nil (value : Nat) : digits value ≠ [] := Nat.toDigits_ne_nil

theorem readDigits?_digits (value : Nat) : readDigits? (digits value) = some value := by
  rw [readDigits?_eq_some (digits_ne_nil value) fun char => isDigit_of_mem_digits, digits,
    Nat.ofDigitChars_ten_toDigits]

/-- The digits of a number do not start with a zero. -/
theorem head?_digits {value : Nat} (h : value ≠ 0) : (digits value).head? ≠ some '0' := by
  induction value using Nat.strongRecOn with
  | ind value ih =>
      rw [digits, Nat.toDigits_eq_if (by decide)]
      split
      · rename_i hdigit
        have hdigits : ∀ digit < 10, digit ≠ 0 → [Nat.digitChar digit].head? ≠ some '0' := by
          decide
        exact hdigits value hdigit h
      · have hrest := ih (value / 10) (by omega) (by omega)
        cases htens : Nat.toDigits 10 (value / 10) with
        | nil => exact absurd htens Nat.toDigits_ne_nil
        | cons first others =>
            rw [digits, htens] at hrest
            exact hrest

/-! ## Zeros in front -/

theorem toList_padded (width value : Nat) : (padded width value).toList =
    List.replicate (width - (digits value).length) '0' ++ digits value :=
  String.toList_ofList

theorem isDigit_of_mem_padded {width value : Nat} {char : Char}
    (h : char ∈ (padded width value).toList) : char.isDigit = true := by
  rw [toList_padded, List.mem_append] at h
  rcases h with hzero | hdigit
  · rw [List.eq_of_mem_replicate hzero]
    rfl
  · exact isDigit_of_mem_digits hdigit

theorem readDigits?_padded (width value : Nat) :
    readDigits? (padded width value).toList = some value := by
  have hne : (padded width value).toList ≠ [] := by
    rw [toList_padded]
    exact List.append_ne_nil_of_right_ne_nil _ (digits_ne_nil value)
  rw [readDigits?_eq_some hne fun char => isDigit_of_mem_padded, toList_padded,
    Nat.ofDigitChars_append, Nat.ofDigitChars_replicate_zero, Nat.mul_zero, digits,
    Nat.ofDigitChars_ten_toDigits]

theorem length_padded {width value : Nat} (h : (digits value).length ≤ width) :
    (padded width value).toList.length = width := by
  rw [toList_padded, List.length_append, List.length_replicate]
  omega

theorem length_digits_le_two {value : Nat} (h : value < 100) : (digits value).length ≤ 2 :=
  (Nat.length_toDigits_le_iff (by decide) (by decide)).2 h

/-! ## Reading up to a length -/

theorem takeDigits?_append {chars : List Char} {count value : Nat}
    (hlength : chars.length = count) (hvalue : readDigits? chars = some value)
    (rest : List Char) : takeDigits? count (chars ++ rest) = some (value, rest) := by
  rw [takeDigits?, List.take_left' hlength, List.drop_left' hlength, if_pos hlength, hvalue]
  rfl

theorem readDigits?_eq_none {chars : List Char} {char : Char} (hchar : char ∈ chars)
    (hdigit : digit? char = none) : readDigits? chars = none := by
  have hfold : ∀ value, chars.foldlM
      (fun value char => (digit? char).map (10 * value + ·)) value = none := by
    induction chars with
    | nil => exact absurd hchar List.not_mem_nil
    | cons first chars ih =>
        intro value
        rw [List.foldlM_cons]
        rcases List.mem_cons.1 hchar with rfl | hrest
        · rw [hdigit]
          rfl
        · cases digit? first with
          | none => rfl
          | some digit => exact ih hrest _
  cases chars with
  | nil => rfl
  | cons first chars => exact hfold 0

end AnalyticsQuery.Numeral
