import AnalyticsQuery.Proofs.Filter.Related
import AnalyticsQuery.Proofs.Filter.Units

/-!
# Ranges written as two comparisons

A range has a lower and an upper bound, each of which is a comparison of its own.  Any
ranges of a filter may be written as a conjunction of two comparisons, wherever they stand.
-/

namespace AnalyticsQuery.Filter

/-- The two comparisons that a range stands for. -/
def bothBounds (field : Field) (lower upper : Operand) : Filter :=
  junction .and
    [condition (.comparison .atLeast field lower), condition (.comparison .atMost field upper)]

/-- Some ranges of the first filter, possibly none, are written in the second as the two
comparisons that they stand for. -/
inductive SplitsRanges : Filter → Filter → Prop
  | condition (leaf : Condition) : SplitsRanges (.condition leaf) (.condition leaf)
  | range (field : Field) (lower upper : Operand) :
      SplitsRanges (.condition (.between field lower upper)) (bothBounds field lower upper)
  | junction (operator : Junction) {children others : List Filter} :
      List.Forall₂ SplitsRanges children others →
        SplitsRanges (.junction operator children) (.junction operator others)
  | negation {child other : Filter} :
      SplitsRanges child other → SplitsRanges (.negation child) (.negation other)

variable {filter other : Filter}

/-- Induction on how ranges are written, with the statement for all children at once. -/
@[elab_as_elim]
theorem SplitsRanges.splitInduction {motive : Filter → Filter → Prop}
    (h : filter.SplitsRanges other)
    (condition : ∀ leaf, motive (.condition leaf) (.condition leaf))
    (range : ∀ field lower upper,
      motive (.condition (.between field lower upper)) (bothBounds field lower upper))
    (junction : ∀ operator children others, List.Forall₂ SplitsRanges children others →
      List.Forall₂ motive children others →
        motive (.junction operator children) (.junction operator others))
    (negation : ∀ child other, SplitsRanges child other → motive child other →
      motive (.negation child) (.negation other)) :
    motive filter other := by
  induction filter using treeInduction generalizing other with
  | condition leaf =>
      cases h with
      | condition => exact condition leaf
      | range field lower upper => exact range field lower upper
  | junction operator children ih =>
      cases h with
      | @junction _ _ others hchildren =>
          apply junction operator children others hchildren
          induction hchildren with
          | nil => exact .nil
          | cons hchild _ ihchildren =>
              obtain ⟨hfirst, hrest⟩ := List.forall_mem_cons.1 ih
              exact .cons (hfirst hchild) (ihchildren hrest)
  | negation child ih =>
      cases h with
      | negation hchild => exact negation child _ hchild (ih hchild)

/-! ## Leaves -/

/-- What is gathered from the leaves, if a range gives what its comparisons give. -/
theorem flatMap_leaves_of_splitsRanges {α : Type} {gather : Condition → List α}
    (hgather : ∀ field lower upper, gather (.between field lower upper) =
      gather (.comparison .atLeast field lower) ++ gather (.comparison .atMost field upper))
    (h : filter.SplitsRanges other) :
    filter.leaves.flatMap gather = other.leaves.flatMap gather := by
  refine h.splitInduction ?condition ?range ?junction ?negation
  case condition => exact fun leaf => rfl
  case range =>
    intro field lower upper
    rw [bothBounds, leaves_junction, leaves_condition, List.flatMap_singleton, hgather]
    simp
  case junction =>
    intro operator children others _ hchildren
    rw [leaves_junction, leaves_junction, List.flatMap_assoc, List.flatMap_assoc,
      List.flatMap_def, List.flatMap_def, map_eq_of_forall₂ hchildren]
  case negation => exact fun child other _ hchild => hchild

/-- Whether some leaf has a property, if a range has it when one of its comparisons does. -/
theorem any_leaves_of_splitsRanges {property : Condition → Bool}
    (hproperty : ∀ field lower upper, property (.between field lower upper) =
      (property (.comparison .atLeast field lower) ||
        property (.comparison .atMost field upper)))
    (h : filter.SplitsRanges other) :
    filter.leaves.any property = other.leaves.any property := by
  refine h.splitInduction ?condition ?range ?junction ?negation
  case condition => exact fun leaf => rfl
  case range =>
    intro field lower upper
    rw [bothBounds, leaves_junction, leaves_condition, List.any_cons, List.any_nil,
      Bool.or_false, hproperty]
    simp
  case junction =>
    intro operator children others _ hchildren
    have hany : ∀ filters : List Filter, (filters.flatMap leaves).any property =
        (filters.map fun filter => filter.leaves.any property).any id := by
      intro filters
      rw [List.any_flatMap, List.any_map]
      rfl
    rw [leaves_junction, leaves_junction, hany, hany, map_eq_of_forall₂ hchildren]
  case negation => exact fun child other _ hchild => hchild

/-! ## Units and halves -/

theorem SplitsRanges.normalizeUnits (h : filter.SplitsRanges other) :
    filter.normalizeUnits.SplitsRanges other.normalizeUnits := by
  refine h.splitInduction ?condition ?range ?junction ?negation
  case condition => exact fun leaf => .condition leaf.normalizeUnits
  case range =>
    intro field lower upper
    exact .range field.normalizeUnit lower.normalizeUnit upper.normalizeUnit
  case junction =>
    intro operator children others _ hchildren
    rw [Filter.normalizeUnits, mapConditions_junction, mapConditions_junction]
    apply SplitsRanges.junction
    rw [List.forall₂_map_left_iff, List.forall₂_map_right_iff]
    exact hchildren
  case negation => exact fun child other _ hchild => .negation hchild

/-- Pruning leaves the same ranges split, if it drops a range with its comparisons. -/
theorem SplitsRanges.prune {drop : Condition → Bool}
    (hlower : ∀ field lower upper,
      drop (.comparison .atLeast field lower) = drop (.between field lower upper))
    (hupper : ∀ field lower upper,
      drop (.comparison .atMost field upper) = drop (.between field lower upper))
    (h : filter.SplitsRanges other) :
    Option.Rel SplitsRanges (filter.prune drop) (other.prune drop) := by
  refine h.splitInduction ?condition ?range ?junction ?negation
  case condition =>
    intro leaf
    rw [prune_condition]
    cases drop leaf with
    | true => exact .none
    | false => exact .some (.condition leaf)
  case range =>
    intro field lower upper
    rw [bothBounds, prune_junction, prune_condition]
    simp only [List.filterMap_cons, prune_condition, hlower field lower upper,
      hupper field lower upper]
    cases drop (.between field lower upper) with
    | true => exact .none
    | false => exact .some (.range field lower upper)
  case junction =>
    exact fun operator _ _ _ hchildren => rel_prune_junction (.junction operator) hchildren
  case negation => exact fun _ _ _ hchild => rel_prune_negation .negation hchild

end AnalyticsQuery.Filter
