import AnalyticsQuery.Proofs.Compile.Agreement
import Mathlib.Algebra.BigOperators.Group.List.Basic

/-!
# Regrouped conjunctions

A conjunction of two merges the ranges of its children.  Once a failure absorbs whatever it is
merged with, ranges are a commutative monoid, and a tree of such conjunctions has the product
of what its parts have.  So it does not matter how the parts are grouped, nor in which order
they stand: a conflict may be met at another conjunction, but it is met.
-/

namespace AnalyticsQuery

open Fallible

namespace Filter

/-- A filter that joins others by conjunctions of two, and those others in their order. -/
inductive JoinsInPairs : Filter → List Filter → Prop
  | single (filter : Filter) : JoinsInPairs filter [filter]
  | pair {left right : Filter} {lefts rights : List Filter} : JoinsInPairs left lefts →
      JoinsInPairs right rights → JoinsInPairs (junction .and [left, right]) (lefts ++ rights)

end Filter

namespace Compiler

variable {compiler : Compiler} {left right : DateRange}

/-! ## Merged ranges -/

theorem mergeRanges_eq_ok_iff {merged : DateRange} :
    mergeRanges (some left) (some right) = .ok (some merged) ↔
      left.merge? right = some merged := by
  rw [mergeRanges]
  cases left.merge? right with
  | none => simp
  | some range => simp

theorem mergeRanges_eq_error_iff {error : CompileError} :
    mergeRanges (some left) (some right) = .error error ↔
      error = .multipleDateRanges [left, right] ∧ left.merge? right = none := by
  rw [mergeRanges]
  cases left.merge? right with
  | none => simp [eq_comm]
  | some range => simp

/-- What comes of ranges that are merged: a failure, nothing where none was given, or a
range. -/
inductive Merged where
  | failed
  | nothing
  | range (range : DateRange)

namespace Merged

/-- What a computation of a range comes to, whatever its error. -/
def ofResult : Except CompileError (Option DateRange) → Merged
  | .error _ => failed
  | .ok none => nothing
  | .ok (some found) => range found

def ofRange? (merged : Option DateRange) : Merged := merged.elim failed range

/-- A failure absorbs whatever it is merged with. -/
def merge : Merged → Merged → Merged
  | failed, _ => failed
  | nothing, second => second
  | range _, failed => failed
  | range left, nothing => range left
  | range left, range right => ofRange? (left.merge? right)

/-- The result that a merge came to, unless it failed. -/
def found? : Merged → Option (Option DateRange)
  | failed => none
  | nothing => some none
  | range found => some (some found)

theorem found?_ofResult {result : Except CompileError (Option DateRange)}
    {found : Option DateRange} :
    (ofResult result).found? = some found ↔ result = .ok found := by
  match result with
  | .error _ => simp [ofResult, found?]
  | .ok none => simp [ofResult, found?]
  | .ok (some _) => simp [ofResult, found?]

theorem ofResult_mergeRanges (first second : Option DateRange) :
    ofResult (mergeRanges first second) = merge (ofResult (.ok first)) (ofResult (.ok second)) := by
  match first, second with
  | none, _ => rfl
  | some _, none => rfl
  | some left, some right =>
      rw [mergeRanges, ofResult, ofResult, merge]
      cases left.merge? right <;> rfl

theorem merge_nothing (first : Merged) : merge first nothing = first := by
  cases first <;> rfl

theorem merge_failed (first : Merged) : merge first failed = failed := by
  cases first <;> rfl

theorem merge_comm (first second : Merged) : merge first second = merge second first := by
  cases first with
  | failed => exact (merge_failed second).symm
  | nothing => exact (merge_nothing second).symm
  | range left =>
      cases second with
      | failed => rfl
      | nothing => rfl
      | range right => rw [merge, merge, DateRange.isIdempotentMerge_merge?.commutative]

theorem ofRange?_merge (merged : Option DateRange) (right : DateRange) :
    merge (ofRange? merged) (range right) =
      ofRange? (merged.bind fun left => left.merge? right) := by
  cases merged <;> rfl

theorem merge_assoc (first second third : Merged) :
    merge (merge first second) third = merge first (merge second third) := by
  match first, second, third with
  | failed, _, _ => rfl
  | nothing, _, _ => rfl
  | range _, failed, _ => rfl
  | range _, nothing, _ => rfl
  | range _, range _, failed => rw [merge_failed, merge_failed, merge_failed]
  | range _, range _, nothing => rw [merge_nothing, merge_nothing]
  | range left, range middle, range right =>
      have hgrouped : merge (range left) (ofRange? (middle.merge? right)) =
          ofRange? ((middle.merge? right).bind fun merged => left.merge? merged) := by
        rw [merge_comm, ofRange?_merge]
        simp only [DateRange.isIdempotentMerge_merge?.commutative left]
      rw [merge, merge, ofRange?_merge, hgrouped,
        DateRange.isIdempotentMerge_merge?.associative]

instance : CommMonoid Merged where
  mul := merge
  one := nothing
  mul_assoc := merge_assoc
  one_mul _ := rfl
  mul_one := merge_nothing
  mul_comm := merge_comm

theorem mul_def (first second : Merged) : first * second = merge first second := rfl

end Merged

/-! ## Conjunctions of two -/

/-- What the range of a filter comes to. -/
def outcome (compiler : Compiler) (filter : Filter) : Merged :=
  .ofResult (compiler.filterRange filter)

theorem outcome_pair (left right : Filter) :
    compiler.outcome (.junction .and [left, right]) =
      compiler.outcome left * compiler.outcome right := by
  rw [outcome, filterRange_junction, List.mapM_cons, List.mapM_cons, List.mapM_nil, outcome,
    outcome, Merged.mul_def]
  cases compiler.filterRange left with
  | error error => rfl
  | ok first =>
      cases compiler.filterRange right with
      | error error => exact (Merged.merge_failed _).symm
      | ok second => exact Merged.ofResult_mergeRanges first second

/-- A tree of conjunctions of two comes to the product of what its parts come to. -/
theorem outcome_of_joinsInPairs {filter : Filter} {parts : List Filter}
    (h : filter.JoinsInPairs parts) :
    compiler.outcome filter = (parts.map compiler.outcome).prod := by
  induction h with
  | single filter => rw [List.map_singleton, List.prod_singleton]
  | pair _ _ ihLeft ihRight =>
      rw [outcome_pair, ihLeft, ihRight, List.map_append, List.prod_append]

theorem outcome_eq_of_perm {filter other : Filter} {parts others : List Filter}
    (hfilter : filter.JoinsInPairs parts) (hother : other.JoinsInPairs others)
    (hperm : parts.Perm others) : compiler.outcome filter = compiler.outcome other := by
  rw [outcome_of_joinsInPairs hfilter, outcome_of_joinsInPairs hother,
    (hperm.map compiler.outcome).prod_eq]

theorem dateRange_eq_ok_iff_of_perm {filter other : Filter} {parts others : List Filter}
    (hfilter : filter.JoinsInPairs parts) (hother : other.JoinsInPairs others)
    (hperm : parts.Perm others) (range : DateRange) :
    compiler.dateRange (some filter) = .ok range ↔
      compiler.dateRange (some other) = .ok range := by
  have hsame : ∀ found, compiler.filterRange filter = .ok found ↔
      compiler.filterRange other = .ok found := by
    intro found
    have houtcome : compiler.outcome filter = compiler.outcome other :=
      outcome_eq_of_perm hfilter hother hperm
    rw [← Merged.found?_ofResult, ← Merged.found?_ofResult]
    exact Eq.congr_left (congrArg Merged.found? houtcome)
  rw [dateRange_eq_ok_iff, dateRange_eq_ok_iff, filterRange_normalizeUnits,
    filterRange_normalizeUnits]
  exact exists_congr fun found => and_congr_left' (hsame found)

/-- Merging asks neither for an order nor for a grouping, and fails exactly where two ranges
set a bound differently.  So conjunctions of two may be regrouped and reordered: what they
join still has its range, and the same one, or still has none. -/
theorem dateRange_of_regrouped :
    DateRange.IsIdempotentMerge DateRange.merge? DateRange.empty ∧
      (∀ range, mergeRanges (some range) none = .ok (some range)) ∧
      (∀ left right : DateRange,
        (∀ merged, mergeRanges (some left) (some right) = .ok (some merged) ↔
          left.merge? right = some merged) ∧
        (∀ error, mergeRanges (some left) (some right) = .error error ↔
          error = .multipleDateRanges [left, right] ∧
            ∃ side leftText rightText, left.bound side = some leftText ∧
              right.bound side = some rightText ∧ leftText ≠ rightText) ∧
        ∀ merged, left.merge? right = some merged → ∀ side text,
          merged.bound side = some text ↔
            left.bound side = some text ∨ right.bound side = some text) ∧
      ∀ (compiler : Compiler) (filter other : Filter) (parts others : List Filter),
        filter.JoinsInPairs parts → other.JoinsInPairs others → parts.Perm others →
          ∀ range, compiler.dateRange (some filter) = .ok range ↔
            compiler.dateRange (some other) = .ok range := by
  refine ⟨DateRange.isIdempotentMerge_merge?, fun _ => rfl, fun left right => ⟨?_, ?_, ?_⟩, ?_⟩
  · intro merged
    exact mergeRanges_eq_ok_iff
  · intro error
    rw [mergeRanges_eq_error_iff, DateRange.merge?_eq_none_iff]
  · intro merged hmerged
    exact DateRange.bound_merge? hmerged
  · intro compiler filter other parts others hfilter hother hperm
    exact dateRange_eq_ok_iff_of_perm hfilter hother hperm

/-- Two bounds around a condition that gives none, joined from the left and, in another
order, from the right. -/
theorem dateRange_of_regrouped_week :
    let start : Filter := .condition (.comparison .atLeast (.bucketed (.id 7) .day)
      (.relative (-7) .day))
    let country : Filter := .condition (.comparison .equal (.plain (.literal "ga:country"))
      (.literal (.text "France") none))
    let stop : Filter := .condition (.comparison .less (.bucketed (.id 7) .day)
      (.relative 0 .day))
    let filter : Filter := .junction .and [.junction .and [start, country], stop]
    let other : Filter := .junction .and [stop, .junction .and [country, start]]
    let week : DateRange := ⟨some "7daysAgo", some "yesterday"⟩
    mergeRanges (some ⟨some "7daysAgo", none⟩) (some ⟨none, some "yesterday"⟩) =
        .ok (some week) ∧
      bare.dateRange (some filter) = .ok week ∧ bare.dateRange (some other) = .ok week := by
  intro start country stop filter other week
  have hfilter : filter.JoinsInPairs ([start] ++ [country] ++ [stop]) :=
    .pair (.pair (.single start) (.single country)) (.single stop)
  have hother : other.JoinsInPairs ([stop] ++ ([country] ++ [start])) :=
    .pair (.single stop) (.pair (.single country) (.single start))
  have hperm : ([start] ++ [country] ++ [stop]).Perm ([stop] ++ ([country] ++ [start])) :=
    List.reverse_perm [stop, country, start]
  have hweek : bare.dateRange (some filter) = .ok week := by decide +kernel
  obtain ⟨_, _, hmerges, hregrouped⟩ := dateRange_of_regrouped
  refine ⟨((hmerges _ _).1 week).2 (by decide), hweek, ?_⟩
  exact (hregrouped bare filter other _ _ hfilter hother hperm week).1 hweek

end Compiler

end AnalyticsQuery
