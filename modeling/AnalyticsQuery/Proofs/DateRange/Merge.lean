import AnalyticsQuery.DateRange
import Mathlib.Data.Option.Basic

/-!
# Merging date ranges

A merge fails exactly on a bound that both sides set to different texts, and
otherwise sets what either side sets.
-/

namespace AnalyticsQuery.DateRange

/-- The two ends of a date range. -/
inductive Side where
  | first
  | last
  deriving DecidableEq, Repr

/-- The bound at one end. -/
def bound (range : DateRange) : Side → Option String
  | .first => range.first
  | .last => range.last

theorem mem_of_mergeBound_eq_some {left right merged : Option String}
    (h : mergeBound left right = some merged) (text : String) :
    merged = some text ↔ left = some text ∨ right = some text := by
  cases left with
  | none =>
      simp only [mergeBound, Option.some.injEq] at h
      simp [h]
  | some leftText =>
      cases right with
      | none =>
          simp only [mergeBound, Option.some.injEq] at h
          simp [← h]
      | some rightText =>
          simp only [mergeBound] at h
          split at h
          · rename_i hequal
            simp only [Option.some.injEq] at h
            simp [← h, ← hequal]
          · exact nomatch h

theorem mergeBound_eq_none_iff {left right : Option String} :
    mergeBound left right = none ↔
      ∃ leftText rightText, left = some leftText ∧ right = some rightText ∧
        leftText ≠ rightText := by
  cases left <;> cases right <;> simp [mergeBound]

theorem merge?_eq_some_iff {left right merged : DateRange} :
    left.merge? right = some merged ↔
      ∀ side, mergeBound (left.bound side) (right.bound side) = some (merged.bound side) := by
  simp only [merge?, Option.bind_eq_bind, Option.pure_def, Option.bind_eq_some_iff,
    Option.some.injEq]
  constructor
  · rintro ⟨first, hfirst, last, hlast, rfl⟩ side
    cases side
    · exact hfirst
    · exact hlast
  · intro h
    exact ⟨merged.first, h .first, merged.last, h .last, rfl⟩

/-- A merge sets a bound to a text exactly if one of its sides does. -/
theorem bound_merge? {left right merged : DateRange} (h : left.merge? right = some merged)
    (side : Side) (text : String) :
    merged.bound side = some text ↔
      left.bound side = some text ∨ right.bound side = some text :=
  mem_of_mergeBound_eq_some (merge?_eq_some_iff.1 h side) text

/-- A merge fails exactly if both sides set some bound and disagree on it. -/
theorem merge?_eq_none_iff {left right : DateRange} :
    left.merge? right = none ↔
      ∃ side leftText rightText, left.bound side = some leftText ∧
        right.bound side = some rightText ∧ leftText ≠ rightText := by
  constructor
  · intro h
    by_contra hagree
    have hmerged : ∀ side, ∃ merged,
        mergeBound (left.bound side) (right.bound side) = some merged := by
      intro side
      apply Option.ne_none_iff_exists'.1
      intro hnone
      exact hagree ⟨side, mergeBound_eq_none_iff.1 hnone⟩
    obtain ⟨first, hfirst⟩ := hmerged .first
    obtain ⟨last, hlast⟩ := hmerged .last
    have hsome : left.merge? right = some ⟨first, last⟩ := by
      apply merge?_eq_some_iff.2
      intro side
      cases side
      · exact hfirst
      · exact hlast
    rw [h] at hsome
    exact nomatch hsome
  · rintro ⟨side, hdiffer⟩
    cases hmerge : left.merge? right with
    | none => rfl
    | some merged =>
        have hside := merge?_eq_some_iff.1 hmerge side
        rw [mergeBound_eq_none_iff.2 hdiffer] at hside
        exact nomatch hside

/-! ## Order and grouping -/

/-- An operation that may fail, but that does not care for order, grouping or repetition:
what fails in one grouping fails in the other. -/
structure IsIdempotentMerge {α : Type} (merge : α → α → Option α) (neutral : α) : Prop where
  neutral_left : ∀ value, merge neutral value = some value
  neutral_right : ∀ value, merge value neutral = some value
  idempotent : ∀ value, merge value value = some value
  commutative : ∀ left right, merge left right = merge right left
  associative : ∀ first second third,
    ((merge first second).bind fun merged => merge merged third) =
      (merge second third).bind fun merged => merge first merged

@[simp]
theorem mergeBound_none_left (bound : Option String) : mergeBound none bound = some bound := by
  cases bound <;> rfl

@[simp]
theorem mergeBound_none_right (bound : Option String) : mergeBound bound none = some bound := by
  cases bound <;> rfl

theorem mergeBound_some (left right : String) : mergeBound (some left) (some right) =
    if left = right then some (some left) else none := rfl

theorem mergeBound_self (bound : Option String) : mergeBound bound bound = some bound := by
  cases bound with
  | none => rfl
  | some text => exact if_pos rfl

theorem mergeBound_comm (left right : Option String) :
    mergeBound left right = mergeBound right left := by
  cases left with
  | none => rw [mergeBound_none_left, mergeBound_none_right]
  | some leftText =>
      cases right with
      | none => rfl
      | some rightText =>
          rw [mergeBound_some, mergeBound_some]
          by_cases hsame : leftText = rightText
          · rw [hsame]
          · rw [if_neg hsame, if_neg (Ne.symm hsame)]

/-- Two of three bounds that differ are met in both groupings. -/
theorem mergeBound_assoc (first second third : Option String) :
    ((mergeBound first second).bind fun merged => mergeBound merged third) =
      (mergeBound second third).bind fun merged => mergeBound first merged := by
  cases first with
  | none => simp
  | some firstText =>
      cases second with
      | none => simp
      | some secondText =>
          cases third with
          | none => simp
          | some thirdText =>
              rw [mergeBound_some, mergeBound_some]
              by_cases hfirst : firstText = secondText
              · subst hfirst
                by_cases hsecond : firstText = thirdText <;> simp [mergeBound_some, hsecond]
              · by_cases hsecond : secondText = thirdText
                · subst hsecond
                  simp [mergeBound_some, hfirst]
                · simp [hfirst, hsecond]

/-- The two bounds of a range are found independently of each other. -/
theorem exists_bounds_iff (property : Side → Option String → Prop) :
    (∃ range : DateRange, ∀ side, property side (range.bound side)) ↔
      ∀ side, ∃ bound, property side bound := by
  constructor
  · rintro ⟨range, hrange⟩ side
    exact ⟨range.bound side, hrange side⟩
  · intro h
    obtain ⟨first, hfirst⟩ := h .first
    obtain ⟨last, hlast⟩ := h .last
    refine ⟨⟨first, last⟩, fun side => ?_⟩
    cases side
    · exact hfirst
    · exact hlast

theorem merge?_assoc (first second third : DateRange) :
    ((first.merge? second).bind fun merged => merged.merge? third) =
      (second.merge? third).bind fun merged => first.merge? merged := by
  apply Option.ext
  intro merged
  have hleft : ((first.merge? second).bind fun inner => inner.merge? third) = some merged ↔
      ∀ side, ((mergeBound (first.bound side) (second.bound side)).bind fun inner =>
        mergeBound inner (third.bound side)) = some (merged.bound side) := by
    simp only [Option.bind_eq_some_iff, merge?_eq_some_iff, ← forall_and]
    exact exists_bounds_iff fun side inner =>
      mergeBound (first.bound side) (second.bound side) = some inner ∧
        mergeBound inner (third.bound side) = some (merged.bound side)
  have hright : ((second.merge? third).bind fun inner => first.merge? inner) = some merged ↔
      ∀ side, ((mergeBound (second.bound side) (third.bound side)).bind fun inner =>
        mergeBound (first.bound side) inner) = some (merged.bound side) := by
    simp only [Option.bind_eq_some_iff, merge?_eq_some_iff, ← forall_and]
    exact exists_bounds_iff fun side inner =>
      mergeBound (second.bound side) (third.bound side) = some inner ∧
        mergeBound (first.bound side) inner = some (merged.bound side)
  rw [hleft, hright]
  exact forall_congr' fun side => by rw [mergeBound_assoc]

theorem isIdempotentMerge_merge? : IsIdempotentMerge merge? empty where
  neutral_left range := merge?_eq_some_iff.2 fun side => by
    cases side <;> exact mergeBound_none_left _
  neutral_right range := merge?_eq_some_iff.2 fun side => by
    cases side <;> exact mergeBound_none_right _
  idempotent range := merge?_eq_some_iff.2 fun side => mergeBound_self (range.bound side)
  commutative left right := by
    apply Option.ext
    intro merged
    rw [merge?_eq_some_iff, merge?_eq_some_iff]
    exact forall_congr' fun side => by rw [mergeBound_comm]
  associative := merge?_assoc

end AnalyticsQuery.DateRange
