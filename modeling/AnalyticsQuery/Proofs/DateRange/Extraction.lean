import AnalyticsQuery.Proofs.DateRange.Condition
import AnalyticsQuery.Proofs.DateRange.Merge
import AnalyticsQuery.Proofs.Filter.Subfilters

/-!
# When a filter has a date range

The range of a filter is found child by child, with ranges merged under some
junctions and refused under others.  This file turns that recursion into conditions
on the whole tree: where the conditions of the date range may stand, and on which
texts they have to agree.
-/

namespace AnalyticsQuery

open DateRange (Side)
open Fallible

/-! ## Conditions on the tree -/

namespace Filter

def hasDateRange (filter : Filter) : Bool := filter.leaves.any Condition.isDateRange

/-- No condition of the date range lies under a negation. -/
def NegatesNoDateRange (filter : Filter) : Prop :=
  ∀ child, negation child ∈ filter.subfilters → child.hasDateRange = false

/-- Apart from conjunctions of exactly two children, no junction has two children
with conditions of the date range. -/
def SeparatesDateRanges (filter : Filter) : Prop :=
  ∀ operator children, junction operator children ∈ filter.subfilters →
    ¬(operator = .and ∧ children.length = 2) → children.countP hasDateRange ≤ 1

@[simp]
theorem hasDateRange_junction (operator : Junction) (children : List Filter) :
    (junction operator children).hasDateRange = children.any hasDateRange := by
  rw [hasDateRange, leaves_junction, List.any_flatMap]
  rfl

theorem NegatesNoDateRange.of_child {operator : Junction} {children : List Filter}
    {child : Filter} (h : (junction operator children).NegatesNoDateRange)
    (hchild : child ∈ children) : child.NegatesNoDateRange := fun part hpart =>
  h part (mem_subfilters_junction.2 (.inr ⟨child, hchild, hpart⟩))

theorem SeparatesDateRanges.of_child {operator : Junction} {children : List Filter}
    {child : Filter} (h : (junction operator children).SeparatesDateRanges)
    (hchild : child ∈ children) : child.SeparatesDateRanges := fun inner parts hparts =>
  h inner parts (mem_subfilters_junction.2 (.inr ⟨child, hchild, hparts⟩))

theorem negatesNoDateRange_junction {operator : Junction} {children : List Filter}
    (h : ∀ child ∈ children, child.NegatesNoDateRange) :
    (junction operator children).NegatesNoDateRange := by
  intro part hpart
  rcases mem_subfilters_junction.1 hpart with hroot | ⟨child, hchild, hbelow⟩
  · cases hroot
  · exact h child hchild part hbelow

theorem separatesDateRanges_junction {operator : Junction} {children : List Filter}
    (h : ∀ child ∈ children, child.SeparatesDateRanges)
    (hroot : ¬(operator = .and ∧ children.length = 2) → children.countP hasDateRange ≤ 1) :
    (junction operator children).SeparatesDateRanges := by
  intro inner parts hparts hpair
  rcases mem_subfilters_junction.1 hparts with hself | ⟨child, hchild, hbelow⟩
  · cases hself
    exact hroot hpair
  · exact h child hchild inner parts hbelow hpair

/-- Under a filter without conditions of the date range no junction has any. -/
theorem hasDateRange_of_mem_subfilters {filter part : Filter}
    (hpart : part ∈ filter.subfilters) (h : filter.hasDateRange = false) :
    part.hasDateRange = false := by
  induction filter using treeInduction with
  | condition leaf => rwa [mem_subfilters_condition.1 hpart]
  | junction operator children ih =>
      rcases mem_subfilters_junction.1 hpart with hself | ⟨child, hchild, hbelow⟩
      · rwa [hself]
      · rw [hasDateRange_junction, List.any_eq_false] at h
        exact ih child hchild hbelow (eq_false_of_ne_true (h child hchild))
  | negation child ih =>
      rcases mem_subfilters_negation.1 hpart with hself | hbelow
      · rwa [hself]
      · exact ih hbelow h

theorem negatesNoDateRange_of_none {filter : Filter} (h : filter.hasDateRange = false) :
    filter.NegatesNoDateRange := by
  intro child hchild
  have hnegation : (negation child).hasDateRange = false :=
    hasDateRange_of_mem_subfilters hchild h
  exact hnegation

theorem separatesDateRanges_of_none {filter : Filter} (h : filter.hasDateRange = false) :
    filter.SeparatesDateRanges := by
  intro operator children hchildren _
  have hnone := hasDateRange_of_mem_subfilters hchildren h
  rw [hasDateRange_junction, List.any_eq_false] at hnone
  rw [List.countP_eq_zero.2 hnone]
  exact Nat.zero_le 1

end Filter

namespace Compiler

variable (compiler : Compiler)

/-- Texts of the bounds that conditions imply at one end of the date range. -/
def impliedTexts (side : Side) (leaves : List Condition) : List String :=
  leaves.filterMap fun leaf =>
    match compiler.conditionRange leaf.normalizeUnits with
    | .ok (some range) => range.bound side
    | _ => none

/-- A range collects conditions if it sets exactly the bounds that they imply, and
there is no range exactly if none of them is one of the date range. -/
def Collects (leaves : List Condition) : Option DateRange → Prop
  | none => leaves.any Condition.isDateRange = false
  | some range => leaves.any Condition.isDateRange = true ∧
      ∀ side text, range.bound side = some text ↔ text ∈ compiler.impliedTexts side leaves

variable {compiler}

theorem impliedTexts_append (side : Side) (lefts rights : List Condition) :
    compiler.impliedTexts side (lefts ++ rights) =
      compiler.impliedTexts side lefts ++ compiler.impliedTexts side rights :=
  List.filterMap_append

theorem impliedTexts_of_none {leaves : List Condition}
    (h : leaves.any Condition.isDateRange = false) (side : Side) :
    compiler.impliedTexts side leaves = [] := by
  rw [impliedTexts, List.filterMap_eq_nil_iff]
  intro leaf hleaf
  have hdate : leaf.normalizeUnits.isDateRange = false := by
    rw [Condition.isDateRange_normalizeUnits]
    exact eq_false_of_ne_true (List.any_eq_false.1 h leaf hleaf)
  rw [conditionRange_of_not_dateRange hdate]

namespace Collects

variable {lefts rights : List Condition}

theorem append_left {result : Option DateRange} (hleft : compiler.Collects lefts none)
    (hright : compiler.Collects rights result) : compiler.Collects (lefts ++ rights) result := by
  have hnone : lefts.any Condition.isDateRange = false := hleft
  cases result with
  | none =>
      change (lefts ++ rights).any _ = false
      rw [List.any_append, hnone, hright]
      rfl
  | some range =>
      refine ⟨?_, fun side text => ?_⟩
      · rw [List.any_append, hright.1, Bool.or_true]
      · rw [impliedTexts_append, impliedTexts_of_none hnone, List.nil_append]
        exact hright.2 side text

theorem append_right {result : Option DateRange} (hleft : compiler.Collects lefts result)
    (hright : compiler.Collects rights none) : compiler.Collects (lefts ++ rights) result := by
  have hnone : rights.any Condition.isDateRange = false := hright
  cases result with
  | none => exact append_left hleft hright
  | some range =>
      refine ⟨?_, fun side text => ?_⟩
      · rw [List.any_append, hleft.1, Bool.true_or]
      · rw [impliedTexts_append, impliedTexts_of_none hnone, List.append_nil]
        exact hleft.2 side text

theorem append_merge {left right merged : DateRange}
    (hleft : compiler.Collects lefts (some left))
    (hright : compiler.Collects rights (some right))
    (hmerge : left.merge? right = some merged) :
    compiler.Collects (lefts ++ rights) (some merged) := by
  refine ⟨?_, fun side text => ?_⟩
  · rw [List.any_append, hleft.1, Bool.true_or]
  · rw [DateRange.bound_merge? hmerge, hleft.2, hright.2, impliedTexts_append,
      List.mem_append]

end Collects

/-! ## Combining the ranges of children -/

theorem filterRanges_eq_mapM (children : List Filter) :
    compiler.filterRanges children = children.mapM compiler.filterRange := by
  induction children with
  | nil => rfl
  | cons child children ih => rw [filterRanges, ih, List.mapM_cons]

theorem filterRange_junction (operator : Junction) (children : List Filter) :
    compiler.filterRange (.junction operator children) =
      (children.mapM compiler.filterRange >>= combineRanges operator) := by
  rw [← filterRanges_eq_mapM]
  rfl

theorem combineRanges_of_not_pair {operator : Junction} {ranges : List (Option DateRange)}
    (h : ¬(operator = .and ∧ ranges.length = 2)) :
    combineRanges operator ranges = onlyRange ranges := by
  unfold combineRanges
  split
  · exact absurd ⟨rfl, rfl⟩ h
  · rfl

/-- Ranges of children, one beside the other, that collect the leaves of each. -/
abbrev CollectsEach (compiler : Compiler) (children : List Filter)
    (ranges : List (Option DateRange)) : Prop :=
  List.Forall₂ (fun child range => compiler.Collects child.leaves range) children ranges

theorem CollectsEach.length_filterMap {children : List Filter}
    {ranges : List (Option DateRange)} (h : CollectsEach compiler children ranges) :
    (ranges.filterMap id).length = children.countP Filter.hasDateRange := by
  induction h with
  | nil => rfl
  | @cons child range children ranges hchild _ ih =>
      cases range with
      | none =>
          have hnone : child.hasDateRange = false := hchild
          rw [List.countP_cons_of_neg (by rw [hnone]; exact Bool.false_ne_true), ← ih]
          rfl
      | some range =>
          have hsome : child.hasDateRange = true := hchild.1
          rw [List.countP_cons_of_pos hsome, ← ih]
          rfl

/-- If at most one child has a range, that range collects the leaves of all. -/
theorem CollectsEach.head? {children : List Filter} {ranges : List (Option DateRange)}
    (h : CollectsEach compiler children ranges) (hone : (ranges.filterMap id).length ≤ 1) :
    compiler.Collects (children.flatMap Filter.leaves) (ranges.filterMap id).head? := by
  induction h with
  | nil => rfl
  | @cons child range children ranges hchild hchildren ih =>
      rw [List.flatMap_cons]
      cases range with
      | none => exact Collects.append_left hchild (ih hone)
      | some range =>
          have hnil : ranges.filterMap id = [] := by
            have hlength : (ranges.filterMap id).length + 1 ≤ 1 := hone
            exact List.length_eq_zero_iff.1 (by omega)
          have hrest := ih (by rw [hnil]; exact Nat.zero_le 1)
          rw [hnil] at hrest
          exact Collects.append_right hchild hrest

theorem onlyRange_of_length_le {ranges : List (Option DateRange)}
    (h : (ranges.filterMap id).length ≤ 1) :
    onlyRange ranges = .ok (ranges.filterMap id).head? := by
  unfold onlyRange
  match hfound : ranges.filterMap id with
  | [] => rfl
  | [range] => rfl
  | first :: second :: others =>
      rw [hfound, List.length_cons, List.length_cons] at h
      omega

theorem onlyRange_of_lt_length {ranges : List (Option DateRange)}
    (h : 1 < (ranges.filterMap id).length) :
    onlyRange ranges = .error (.multipleDateRanges (ranges.filterMap id)) := by
  unfold onlyRange
  match hfound : ranges.filterMap id with
  | [] =>
      rw [hfound, List.length_nil] at h
      omega
  | [range] =>
      rw [hfound, List.length_singleton] at h
      omega
  | first :: second :: others => rfl

theorem CollectsEach.exists_pair {children : List Filter} {ranges : List (Option DateRange)}
    (h : CollectsEach compiler children ranges) (hlength : ranges.length = 2) :
    ∃ left right first second, children = [left, right] ∧ ranges = [first, second] ∧
      compiler.Collects left.leaves first ∧ compiler.Collects right.leaves second := by
  obtain ⟨first, second, rfl⟩ := List.length_eq_two.1 hlength
  obtain ⟨left, right, rfl⟩ := List.length_eq_two.1 (h.length_eq.trans hlength)
  cases h with
  | cons hleft hrest =>
      cases hrest with
      | cons hright _ => exact ⟨left, right, first, second, rfl, rfl, hleft, hright⟩

/-- A merged range collects what both ranges do. -/
theorem collects_mergeRanges {lefts rights : List Condition}
    {first second result : Option DateRange} (hleft : compiler.Collects lefts first)
    (hright : compiler.Collects rights second) (h : mergeRanges first second = .ok result) :
    compiler.Collects (lefts ++ rights) result := by
  cases first with
  | none =>
      rw [← Except.ok.inj h]
      exact Collects.append_left hleft hright
  | some left =>
      cases second with
      | none =>
          rw [← Except.ok.inj h]
          exact Collects.append_right hleft hright
      | some right =>
          rw [mergeRanges] at h
          cases hmerge : left.merge? right with
          | none =>
              rw [hmerge] at h
              cases h
          | some merged =>
              rw [hmerge] at h
              rw [← Except.ok.inj h]
              exact Collects.append_merge hleft hright hmerge

theorem flatMap_leaves_pair (left right : Filter) :
    [left, right].flatMap Filter.leaves = left.leaves ++ right.leaves := by
  rw [List.flatMap_cons, List.flatMap_singleton]

/-- The combined range of children collects all their leaves. -/
theorem collects_combineRanges {operator : Junction} {children : List Filter}
    {ranges : List (Option DateRange)} {result : Option DateRange}
    (hranges : CollectsEach compiler children ranges)
    (h : combineRanges operator ranges = .ok result) :
    (¬(operator = .and ∧ children.length = 2) →
      children.countP Filter.hasDateRange ≤ 1) ∧
    compiler.Collects (children.flatMap Filter.leaves) result := by
  by_cases hpair : operator = .and ∧ ranges.length = 2
  · refine ⟨fun hnot => absurd (hranges.length_eq ▸ hpair) hnot, ?_⟩
    obtain ⟨rfl, hlength⟩ := hpair
    obtain ⟨left, right, first, second, rfl, rfl, hleft, hright⟩ := hranges.exists_pair hlength
    rw [flatMap_leaves_pair]
    exact collects_mergeRanges hleft hright h
  · rw [combineRanges_of_not_pair hpair] at h
    by_cases hone : (ranges.filterMap id).length ≤ 1
    · rw [onlyRange_of_length_le hone] at h
      rw [← Except.ok.inj h]
      exact ⟨fun _ => hranges.length_filterMap ▸ hone, hranges.head? hone⟩
    · rw [onlyRange_of_lt_length (by omega)] at h
      cases h

@[simp]
theorem hasDateRange_normalizeUnits (filter : Filter) :
    filter.normalizeUnits.hasDateRange = filter.hasDateRange := by
  rw [Filter.hasDateRange, Filter.leaves_normalizeUnits, List.any_map]
  apply congrArg filter.leaves.any
  funext leaf
  exact leaf.isDateRange_normalizeUnits

theorem filterRange_normalizeUnits_junction (operator : Junction) (children : List Filter) :
    compiler.filterRange (Filter.normalizeUnits (.junction operator children)) =
      (children.mapM (fun child => compiler.filterRange child.normalizeUnits) >>=
        combineRanges operator) := by
  rw [Filter.normalizeUnits, Filter.mapConditions_junction, filterRange_junction,
    List.mapM_map]
  rfl

theorem filterRange_normalizeUnits_negation (child : Filter) :
    compiler.filterRange (Filter.normalizeUnits (.negation child)) =
      if child.hasDateRange then .error .negatedDateRange else .ok none := by
  rw [← hasDateRange_normalizeUnits]
  rfl

/-- The range of a condition collects that condition. -/
theorem collects_conditionRange {leaf : Condition} {result : Option DateRange}
    (h : compiler.conditionRange leaf.normalizeUnits = .ok result) :
    compiler.Collects [leaf] result := by
  have hany : [leaf].any Condition.isDateRange = leaf.isDateRange := Bool.or_false _
  cases hdate : leaf.isDateRange with
  | false =>
      rw [conditionRange_of_not_dateRange (by simpa using hdate)] at h
      rw [← Except.ok.inj h]
      exact hany.trans hdate
  | true =>
      have hsome := conditionRange_isSome (by simpa using hdate) h
      obtain ⟨range, rfl⟩ := Option.isSome_iff_exists.1 hsome
      refine ⟨hany.trans hdate, ?_⟩
      intro side text
      rw [impliedTexts, List.mem_filterMap]
      simp only [List.mem_singleton, exists_eq_left, h]

/-- A filter whose range is found meets the conditions on where ranges may stand, and
its range collects all its leaves. -/
theorem collects_of_filterRange {filter : Filter} {result : Option DateRange}
    (h : compiler.filterRange filter.normalizeUnits = .ok result) :
    filter.NegatesNoDateRange ∧ filter.SeparatesDateRanges ∧
      compiler.Collects filter.leaves result := by
  induction filter using Filter.treeInduction generalizing result with
  | condition leaf =>
      refine ⟨?_, ?_, collects_conditionRange h⟩
      · intro child hchild
        cases Filter.mem_subfilters_condition.1 hchild
      · intro operator children hchildren
        cases Filter.mem_subfilters_condition.1 hchildren
  | junction operator children ih =>
      rw [filterRange_normalizeUnits_junction, bind_eq_ok_iff] at h
      obtain ⟨ranges, hranges, hresult⟩ := h
      have hchildren : ∀ child ∈ children, child.NegatesNoDateRange ∧
          child.SeparatesDateRanges := by
        intro child hchild
        obtain ⟨range, hrange⟩ := exists_ok_of_mem hranges hchild
        exact ⟨(ih child hchild hrange).1, (ih child hchild hrange).2.1⟩
      rw [mapM_eq_ok_iff] at hranges
      have hcollects : CollectsEach compiler children ranges := by
        refine List.forall₂_iff_get.2 ⟨hranges.length_eq, fun index hleft hright => ?_⟩
        exact (ih _ (List.get_mem _ _) (hranges.get hleft hright)).2.2
      obtain ⟨hone, hall⟩ := collects_combineRanges hcollects hresult
      refine ⟨?_, ?_, ?_⟩
      · exact Filter.negatesNoDateRange_junction fun child hchild => (hchildren child hchild).1
      · exact Filter.separatesDateRanges_junction
          (fun child hchild => (hchildren child hchild).2) hone
      · rwa [Filter.leaves_junction]
  | negation child ih =>
      rw [filterRange_normalizeUnits_negation] at h
      split at h
      · exact nomatch h
      · rename_i hnone
        have hnegation : (Filter.negation child).hasDateRange = false := eq_false_of_ne_true hnone
        rw [← Except.ok.inj h]
        exact ⟨Filter.negatesNoDateRange_of_none hnegation,
          Filter.separatesDateRanges_of_none hnegation, hnegation⟩

/-- If the range of a filter is found, so is that of each of its conditions. -/
theorem exists_conditionRange_of_filterRange {filter : Filter} {result : Option DateRange}
    (h : compiler.filterRange filter.normalizeUnits = .ok result) {leaf : Condition}
    (hleaf : leaf ∈ filter.leaves) (hdate : leaf.isDateRange = true) :
    ∃ range, compiler.conditionRange leaf.normalizeUnits = .ok (some range) := by
  induction filter using Filter.treeInduction generalizing result with
  | condition other =>
      rw [List.mem_singleton.1 hleaf] at hdate ⊢
      have hsome := conditionRange_isSome (by simpa using hdate) h
      obtain ⟨range, rfl⟩ := Option.isSome_iff_exists.1 hsome
      exact ⟨range, h⟩
  | junction operator children ih =>
      rw [filterRange_normalizeUnits_junction, bind_eq_ok_iff] at h
      obtain ⟨ranges, hranges, _⟩ := h
      rw [Filter.leaves_junction] at hleaf
      obtain ⟨child, hchild, hleaf⟩ := List.mem_flatMap.1 hleaf
      obtain ⟨range, hrange⟩ := exists_ok_of_mem hranges hchild
      exact ih child hchild hrange hleaf
  | negation child _ =>
      rw [filterRange_normalizeUnits_negation] at h
      split at h
      · exact nomatch h
      · rename_i hnone
        exact absurd (List.any_eq_true.2 ⟨leaf, hleaf, hdate⟩) hnone

theorem dateRange_eq_ok_iff {filter : Filter} {range : DateRange} :
    compiler.dateRange (some filter) = .ok range ↔
      ∃ result, compiler.filterRange filter.normalizeUnits = .ok result ∧
        result.getD compiler.fullRange = range := by
  change (compiler.filterRange filter.normalizeUnits >>= fun result =>
    pure (result.getD compiler.fullRange)) = .ok range ↔ _
  rw [bind_eq_ok_iff]
  constructor
  · rintro ⟨result, hresult, hrange⟩
    exact ⟨result, hresult, Except.ok.inj hrange⟩
  · rintro ⟨result, hresult, hrange⟩
    exact ⟨result, hresult, congrArg Except.ok hrange⟩

end Compiler

end AnalyticsQuery
