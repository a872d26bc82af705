import AnalyticsQuery.Proofs.Compile.Agreement
import AnalyticsQuery.Proofs.Compile.Dropped

/-!
# The range of the date half

The range of a filter is found on the whole tree, where a condition that gives no bounds
still counts as a child.  Pruning such conditions makes a junction smaller, and the junction
may become a conjunction of two, which merges ranges that were refused before.  Nothing else
changes, not even the error with which a filter has no range.
-/

namespace AnalyticsQuery

open Fallible

namespace Filter

/-- A conjunction of more than two children, two of which hold conditions of the date range. -/
def CrowdsDateRanges (filter : Filter) : Prop :=
  ∃ children, junction .and children ∈ filter.subfilters ∧
    3 ≤ children.length ∧ children.countP hasDateRange = 2

theorem CrowdsDateRanges.of_child {operator : Junction} {children : List Filter} {child : Filter}
    (hchild : child ∈ children) (h : child.CrowdsDateRanges) :
    (junction operator children).CrowdsDateRanges := by
  obtain ⟨parts, hparts, hcrowded⟩ := h
  exact ⟨parts, mem_subfilters_junction.2 (.inr ⟨child, hchild, hparts⟩), hcrowded⟩

/-! ## Negated conditions -/

theorem negatesNoDateRange_condition (leaf : Condition) : (condition leaf).NegatesNoDateRange :=
  fun _ hchild => nomatch mem_subfilters_condition.1 hchild

theorem negatesNoDateRange_junction_iff {operator : Junction} {children : List Filter} :
    (junction operator children).NegatesNoDateRange ↔
      ∀ child ∈ children, child.NegatesNoDateRange :=
  ⟨fun h _ hchild => h.of_child hchild, negatesNoDateRange_junction⟩

theorem negatesNoDateRange_negation_iff {child : Filter} :
    (negation child).NegatesNoDateRange ↔ child.hasDateRange = false := by
  refine ⟨fun h => h child (mem_subfilters_negation.2 (.inl rfl)), fun h => ?_⟩
  have hnegation : (negation child).hasDateRange = false := h
  exact negatesNoDateRange_of_none hnegation

section Prune

variable {drop : Condition → Bool} (hdrop : ∀ leaf, drop leaf = true → leaf.isDateRange = false)

include hdrop

/-- Pruning neither frees conditions of the date range from a negation nor negates any. -/
theorem negatesNoDateRange_prune (filter : Filter) :
    (∀ kept ∈ prune drop filter, kept.NegatesNoDateRange) ↔ filter.NegatesNoDateRange := by
  induction filter using treeInduction with
  | condition leaf =>
      apply iff_of_true _ (negatesNoDateRange_condition leaf)
      intro kept hkept
      obtain ⟨_, hkept⟩ := Option.ite_none_left_eq_some.1 hkept
      rw [← Option.some.inj hkept]
      exact negatesNoDateRange_condition leaf
  | junction operator children ih =>
      have hchildren : (∀ kept ∈ children.filterMap (prune drop), kept.NegatesNoDateRange) ↔
          ∀ child ∈ children, child.NegatesNoDateRange := by
        rw [List.forall_mem_filterMap]
        exact forall₂_congr ih
      rw [prune_junction, negatesNoDateRange_junction_iff, ← hchildren]
      by_cases hnone : children.filterMap (prune drop) = []
      · rw [if_pos hnone, hnone]
        simp
      · rw [if_neg hnone]
        simp only [Option.mem_some_iff, forall_eq', negatesNoDateRange_junction_iff]
  | negation child _ =>
      rw [prune_negation, negatesNoDateRange_negation_iff, ← hasDateRange_prune hdrop child]
      cases prune drop child with
      | none => simp
      | some kept =>
          simp only [Option.map_some, Option.mem_some_iff, forall_eq',
            negatesNoDateRange_negation_iff, Option.elim_some]

end Prune

end Filter

namespace Compiler

variable {compiler : Compiler}

/-! ## Filters without a range -/

/-- Of several filters, those have a range that hold conditions of the date range. -/
theorem length_filterMap_ranges {children : List Filter} {ranges : List (Option DateRange)}
    (h : children.mapM compiler.filterRange = .ok ranges) :
    (ranges.filterMap id).length = children.countP Filter.hasDateRange := by
  rw [mapM_eq_ok_iff] at h
  have hcollects : CollectsEach compiler children ranges := by
    refine h.imp fun child range hrange => ?_
    rw [← filterRange_normalizeUnits] at hrange
    exact (collects_of_filterRange hrange).2.2
  exact hcollects.length_filterMap

/-- If ranges do not combine, they do not either without children that give none, unless
two remain of a conjunction of more. -/
theorem error_combineRanges_of_sublist {operator : Junction}
    {kept ranges : List (Option DateRange)} {error : CompileError}
    (hsublist : kept.Sublist ranges) (hsame : kept.filterMap id = ranges.filterMap id)
    (h : combineRanges operator ranges = .error error) :
    combineRanges operator kept = .error error ∨
      ((∃ found, error = .multipleDateRanges found) ∧ operator = .and ∧ 3 ≤ ranges.length ∧
        (ranges.filterMap id).length = 2) := by
  have hmany : 2 ≤ (ranges.filterMap id).length := by
    by_contra hone
    rw [combineRanges_of_length_le (by omega)] at h
    exact nomatch h
  have hkept : (ranges.filterMap id).length ≤ kept.length :=
    hsame ▸ List.length_filterMap_le id kept
  have hlength : kept.length ≤ ranges.length := hsublist.length_le
  by_cases hpair : operator = .and ∧ ranges.length = 2
  -- both of a pair give ranges if the pair is refused, so that none of them is missing
  · have hall : kept = ranges := hsublist.eq_of_length_le (by omega)
    exact .inl (hall ▸ h)
  · rw [combineRanges_of_not_pair hpair] at h
    by_cases hmerged : operator = .and ∧ kept.length = 2
    · obtain ⟨rfl, htwo⟩ := hmerged
      rw [onlyRange_of_lt_length (by omega)] at h
      have hmore : ranges.length ≠ 2 := fun hranges => hpair ⟨rfl, hranges⟩
      exact .inr ⟨⟨_, (Except.error.inj h).symm⟩, rfl, by omega, by omega⟩
    · left
      rw [onlyRange_of_lt_length (by omega)] at h
      rw [combineRanges_of_not_pair hmerged, onlyRange_of_lt_length (hsame ▸ by omega), hsame, h]

section Prune

variable {drop : Condition → Bool} (hdrop : ∀ leaf, drop leaf = true → leaf.isDateRange = false)

include hdrop

/-- If the ranges of several filters are not found, one of the filters is to blame, and what
remains of them has no ranges either if what remains of that filter has none. -/
theorem error_mapM_prune {children : List Filter} {error : CompileError}
    (h : children.mapM compiler.filterRange = .error error) :
    ∃ child ∈ children, compiler.filterRange child = .error error ∧
      ((child.prune drop).elim (.ok none) compiler.filterRange = .error error →
        (children.filterMap (Filter.prune drop)).mapM compiler.filterRange = .error error) := by
  -- the child is the first one without a range, so that what remains before it has ranges
  obtain ⟨before, child, after, rfl, hbefore, hchild⟩ := mapM_eq_error_iff.1 h
  refine ⟨child, List.mem_append_right before List.mem_cons_self, hchild, fun hsame => ?_⟩
  obtain ⟨part, hpart⟩ : ∃ part, child.prune drop = some part := by
    apply Option.ne_none_iff_exists'.1
    intro hnone
    rw [hnone] at hsame
    exact nomatch hsame
  obtain ⟨found, hfound⟩ := exists_ok_mapM hbefore
  obtain ⟨kept, hkept, _⟩ :=
    exists_ranges_of_kept (fun _ _ _ hok => filterRange_prune hdrop hok) hfound
  rw [hpart, Option.elim_some] at hsame
  rw [List.filterMap_append, List.filterMap_cons, hpart]
  exact mapM_eq_error_iff.2
    ⟨_, part, _, rfl, fun _ hearlier => exists_ok_of_mem hkept hearlier, hsame⟩

/-- If a filter has no range, neither has what remains of it, for the same reason, unless
two ranges of a larger conjunction are now merged. -/
theorem error_filterRange_prune {filter : Filter} {error : CompileError}
    (h : compiler.filterRange filter = .error error) :
    (filter.prune drop).elim (.ok none) compiler.filterRange = .error error ∨
      ((∃ ranges, error = .multipleDateRanges ranges) ∧ filter.CrowdsDateRanges) := by
  induction filter using Filter.treeInduction with
  | condition leaf =>
      have hkept : drop leaf = false := by
        by_contra hdropped
        have hnone := hdrop leaf (eq_true_of_ne_false hdropped)
        rw [filterRange, conditionRange_of_not_dateRange hnone] at h
        cases h
      rw [Filter.prune_condition, hkept]
      exact .inl h
  | junction operator children ih =>
      rw [filterRange_junction, bind_eq_error_iff] at h
      rw [filterRange_prune_junction, bind_eq_error_iff]
      rcases h with hchildren | ⟨ranges, hranges, hcombine⟩
      · obtain ⟨child, hmem, hchild, hremaining⟩ := error_mapM_prune hdrop hchildren
        rcases ih child hmem hchild with hsame | ⟨hmultiple, hcrowded⟩
        · exact .inl (.inl (hremaining hsame))
        · exact .inr ⟨hmultiple, hcrowded.of_child hmem⟩
      · obtain ⟨kept, hkept, hsublist, hsame⟩ :=
          exists_ranges_of_kept (fun _ _ _ hok => filterRange_prune hdrop hok) hranges
        rcases error_combineRanges_of_sublist hsublist hsame hcombine with
          herror | ⟨hmultiple, rfl, hlength, htwo⟩
        · exact .inl (.inr ⟨kept, hkept, herror⟩)
        · rw [length_filterMap_ranges hranges] at htwo
          rw [mapM_eq_ok_iff] at hranges
          exact .inr ⟨hmultiple, children, Filter.mem_subfilters_junction.2 (.inl rfl),
            hranges.length_eq ▸ hlength, htwo⟩
  | negation child _ =>
      rw [filterRange_prune_negation hdrop]
      exact .inl h

end Prune

/-! ## The two ranges -/

theorem isDateRange_of_dropped (leaf : Condition) (h : (!leaf.isDateRange) = true) :
    leaf.isDateRange = false := (Bool.not_eq_true' leaf.isDateRange).mp h

/-- The conditions of a date range give it in whatever junctions the other conditions stand.
A filter has the range that its date half has; and it has none for the reason for which its
date half has none, except that more than two children of a conjunction are refused two
ranges where the half merges them.  Both negate conditions of the date range, or neither. -/
theorem dateRange_of_dateHalf (compiler : Compiler) (filter : Filter) :
    (∀ range, compiler.dateRange (some filter) = .ok range →
      compiler.dateRange filter.dateHalf = .ok range) ∧
    (∀ error, compiler.dateRange (some filter) = .error error →
      compiler.dateRange filter.dateHalf = .error error ∨
        ((∃ ranges, error = .multipleDateRanges ranges) ∧ filter.CrowdsDateRanges)) ∧
    (filter.NegatesNoDateRange ↔ ∀ half ∈ filter.dateHalf, half.NegatesNoDateRange) := by
  simp only [dateRange_eq_map, Option.elim_some]
  refine ⟨?_, ?_, (Filter.negatesNoDateRange_prune isDateRange_of_dropped filter).symm⟩
  · intro range h
    cases hrange : compiler.filterRange filter with
    | error error =>
        rw [hrange] at h
        cases h
    | ok result =>
        rw [Filter.dateHalf, filterRange_prune isDateRange_of_dropped hrange, ← h, hrange]
  · intro error h
    cases hrange : compiler.filterRange filter with
    | ok result =>
        rw [hrange] at h
        cases h
    | error found =>
        rw [hrange] at h
        obtain rfl : found = error := Except.error.inj h
        refine (error_filterRange_prune isDateRange_of_dropped hrange).imp_left fun hhalf => ?_
        rw [Filter.dateHalf, hhalf]
        rfl

/-- January, asked for on both sides of a country. -/
theorem dateRange_of_dateHalf_january :
    let date : Field := .bucketed (.literal "ga:date") .day
    let bound (operator : Comparison) (text : String) : Filter :=
      .condition (.comparison operator date (.literal (.text text) none))
    let country : Filter := .condition (.comparison .equal (.plain (.literal "ga:country"))
      (.literal (.text "Chile") none))
    let filter : Filter := .junction .and
      [bound .atLeast "2020-01-01", country, bound .atMost "2020-01-31"]
    let first : DateRange := ⟨some "2020-01-01", none⟩
    let last : DateRange := ⟨none, some "2020-01-31"⟩
    bare.dateRange (some filter) = .error (.multipleDateRanges [first, last]) ∧
      bare.dateRange filter.dateHalf = .ok ⟨first.first, last.last⟩ ∧ filter.CrowdsDateRanges := by
  intro date bound country filter first last
  have hrefused : bare.dateRange (some filter) = .error (.multipleDateRanges [first, last]) := by
    decide +kernel
  have hmerged : bare.dateRange filter.dateHalf = .ok ⟨first.first, last.last⟩ := by
    decide +kernel
  have ⟨_, herror, _⟩ := dateRange_of_dateHalf bare filter
  rcases herror _ hrefused with hsame | ⟨_, hcrowded⟩
  · exact absurd (hmerged.symm.trans hsame) nofun
  · exact ⟨hrefused, hmerged, hcrowded⟩

end Compiler

end AnalyticsQuery
