import AnalyticsQuery.Filter.Units
import AnalyticsQuery.Filter.Prune
import Mathlib.Data.List.Basic

/-!
# The tree of a filter

Induction on filters whose step for a junction may use the statement for each of
its children, and the functions that walk the tree as operations on lists of
children.
-/

namespace AnalyticsQuery.Filter

/-- Induction on a filter.  The children of a junction are reached through
membership, so that a statement about filters needs no companion for lists. -/
@[elab_as_elim]
theorem treeInduction {motive : Filter → Prop}
    (condition : ∀ leaf, motive (.condition leaf))
    (junction : ∀ operator children, (∀ child ∈ children, motive child) →
      motive (.junction operator children))
    (negation : ∀ child, motive child → motive (.negation child))
    (filter : Filter) : motive filter :=
  match filter with
  | .condition leaf => condition leaf
  | .junction operator children =>
      junction operator children fun child _ => treeInduction condition junction negation child
  | .negation child => negation child (treeInduction condition junction negation child)

/-! ## Leaves -/

theorem leavesOf_eq_flatMap (children : List Filter) :
    leavesOf children = children.flatMap leaves := by
  induction children with
  | nil => rfl
  | cons child children ih => rw [leavesOf, ih, List.flatMap_cons]

@[simp]
theorem leaves_condition (leaf : Condition) : (condition leaf).leaves = [leaf] := rfl

@[simp]
theorem leaves_junction (operator : Junction) (children : List Filter) :
    (junction operator children).leaves = children.flatMap leaves :=
  leavesOf_eq_flatMap children

@[simp]
theorem leaves_negation (child : Filter) : (negation child).leaves = child.leaves := rfl

theorem mem_leaves_junction {operator : Junction} {children : List Filter} {child : Filter}
    (hchild : child ∈ children) {leaf : Condition} (hleaf : leaf ∈ child.leaves) :
    leaf ∈ (junction operator children).leaves := by
  rw [leaves_junction]
  exact List.mem_flatMap_of_mem hchild hleaf

/-! ## Replaced conditions -/

theorem mapEach_eq_map (f : Condition → Condition) (children : List Filter) :
    mapEach f children = children.map (mapConditions f) := by
  induction children with
  | nil => rfl
  | cons child children ih => rw [mapEach, ih, List.map_cons]

@[simp]
theorem mapConditions_condition (f : Condition → Condition) (leaf : Condition) :
    mapConditions f (condition leaf) = condition (f leaf) := rfl

@[simp]
theorem mapConditions_junction (f : Condition → Condition) (operator : Junction)
    (children : List Filter) :
    mapConditions f (junction operator children) =
      junction operator (children.map (mapConditions f)) := by
  rw [mapConditions, mapEach_eq_map]

@[simp]
theorem mapConditions_negation (f : Condition → Condition) (child : Filter) :
    mapConditions f (negation child) = negation (mapConditions f child) := rfl

theorem leaves_mapConditions (f : Condition → Condition) (filter : Filter) :
    (mapConditions f filter).leaves = filter.leaves.map f := by
  induction filter using treeInduction with
  | condition leaf => rfl
  | junction operator children ih =>
      calc
        (mapConditions f (junction operator children)).leaves =
            children.flatMap fun child => (mapConditions f child).leaves := by
          rw [mapConditions_junction, leaves_junction, List.flatMap_map]
        _ = children.flatMap fun child => child.leaves.map f := List.flatMap_congr ih
        _ = (junction operator children).leaves.map f := by
          rw [leaves_junction, List.map_flatMap]
  | negation child ih => exact ih

theorem mapConditions_mapConditions (f g : Condition → Condition) (filter : Filter) :
    mapConditions g (mapConditions f filter) = mapConditions (g ∘ f) filter := by
  induction filter using treeInduction with
  | condition leaf => rfl
  | junction operator children ih =>
      simp only [mapConditions_junction, List.map_map]
      congr 1
      exact List.map_congr_left ih
  | negation child ih => exact congrArg negation ih

theorem mapConditions_eq_self {f : Condition → Condition} {filter : Filter}
    (h : ∀ leaf ∈ filter.leaves, f leaf = leaf) : mapConditions f filter = filter := by
  induction filter using treeInduction with
  | condition leaf => exact congrArg condition (h leaf (List.mem_singleton_self leaf))
  | junction operator children ih =>
      have hchildren : ∀ child ∈ children, mapConditions f child = id child := by
        intro child hchild
        apply ih child hchild
        intro leaf hleaf
        exact h leaf (mem_leaves_junction hchild hleaf)
      rw [mapConditions_junction, List.map_congr_left hchildren, List.map_id]
  | negation child ih => exact congrArg negation (ih h)

theorem mapConditions_id (filter : Filter) : mapConditions id filter = filter :=
  mapConditions_eq_self fun _ _ => rfl

/-! ## Pruned filters -/

@[simp]
theorem prune_condition (drop : Condition → Bool) (leaf : Condition) :
    prune drop (condition leaf) = if drop leaf then none else some (condition leaf) := rfl

@[simp]
theorem prune_negation (drop : Condition → Bool) (child : Filter) :
    prune drop (negation child) = (prune drop child).map negation := rfl

/-- Pruning several filters keeps what remains of those of which something does. -/
theorem pruneEachAsking_pure (drop : Condition → Bool) (children : List Filter) :
    Id.run (pruneEachAsking (fun leaf => pure (drop leaf)) children) =
      children.filterMap (prune drop) := by
  induction children with
  | nil => rfl
  | cons child children ih =>
      rw [List.filterMap_cons, ← ih, pruneEachAsking]
      have hchild : pruneAsking (fun leaf => pure (drop leaf)) child =
          (pure (prune drop child) : Id _) := rfl
      rw [hchild]
      cases prune drop child <;> rfl

theorem prune_junction (drop : Condition → Bool) (operator : Junction)
    (children : List Filter) :
    prune drop (junction operator children) =
      if children.filterMap (prune drop) = [] then none
      else some (junction operator (children.filterMap (prune drop))) := by
  have hchildren : pruneEachAsking (fun leaf => pure (drop leaf)) children =
      (pure (children.filterMap (prune drop)) : Id _) :=
    pruneEachAsking_pure drop children
  rw [prune, pruneAsking, hchildren]
  cases children.filterMap (prune drop) <;> rfl

theorem flatMap_filterMap {α β γ : Type} (f : α → Option β) (g : β → List γ) (items : List α) :
    (items.filterMap f).flatMap g = items.flatMap fun item => (f item).elim [] g := by
  induction items with
  | nil => rfl
  | cons item items ih =>
      rw [List.filterMap_cons, List.flatMap_cons, ← ih]
      cases f item <;> rfl

/-- What remains of a filter has the leaves that are not dropped, in their order. -/
theorem leaves_prune (drop : Condition → Bool) (filter : Filter) :
    ((prune drop filter).elim [] leaves) = filter.leaves.filter fun leaf => !drop leaf := by
  induction filter using treeInduction with
  | condition leaf => cases h : drop leaf <;> simp [h]
  | junction operator children ih =>
      have hkept : (children.filterMap (prune drop)).flatMap leaves =
          children.flatMap fun child => child.leaves.filter fun leaf => !drop leaf := by
        rw [flatMap_filterMap]
        exact List.flatMap_congr ih
      rw [prune_junction, leaves_junction, List.filter_flatMap, ← hkept]
      split
      · rename_i hnone
        simp [hnone]
      · simp
  | negation child ih =>
      rw [prune_negation, leaves_negation, ← ih]
      cases prune drop child <;> rfl

/-- Nothing remains of a filter all of whose leaves are dropped, and of no other. -/
theorem prune_eq_none_iff (drop : Condition → Bool) (filter : Filter) :
    prune drop filter = none ↔ ∀ leaf ∈ filter.leaves, drop leaf = true := by
  induction filter using treeInduction with
  | condition leaf => cases h : drop leaf <;> simp [h]
  | junction operator children ih =>
      rw [prune_junction]
      have hnone : (if children.filterMap (prune drop) = [] then none
          else some (junction operator (children.filterMap (prune drop)))) = none ↔
          ∀ child ∈ children, prune drop child = none := by
        rw [ite_eq_left_iff, ← List.filterMap_eq_nil_iff]
        simp
      rw [hnone, leaves_junction]
      simp only [List.mem_flatMap]
      constructor
      · rintro hnone leaf ⟨child, hchild, hleaf⟩
        exact (ih child hchild).1 (hnone child hchild) leaf hleaf
      · intro hdrop child hchild
        exact (ih child hchild).2 fun leaf hleaf => hdrop leaf ⟨child, hchild, hleaf⟩
  | negation child ih =>
      rw [prune_negation, Option.map_eq_none_iff, ih, leaves_negation]

theorem leaves_of_prune {drop : Condition → Bool} {filter kept : Filter}
    (h : prune drop filter = some kept) :
    kept.leaves = filter.leaves.filter fun leaf => !drop leaf := by
  have hleaves := leaves_prune drop filter
  rw [h] at hleaves
  exact hleaves

/-- Pruning after replacing conditions is pruning by what they are replaced with. -/
theorem prune_mapConditions (drop : Condition → Bool) (f : Condition → Condition)
    (filter : Filter) :
    prune drop (mapConditions f filter) = (prune (drop ∘ f) filter).map (mapConditions f) := by
  induction filter using treeInduction with
  | condition leaf =>
      rw [mapConditions_condition, prune_condition, prune_condition, Function.comp_apply]
      split <;> rfl
  | junction operator children ih =>
      have hkept : (children.map (mapConditions f)).filterMap (prune drop) =
          (children.filterMap (prune (drop ∘ f))).map (mapConditions f) := by
        rw [List.filterMap_map, List.map_filterMap]
        exact List.filterMap_congr ih
      rw [mapConditions_junction, prune_junction, prune_junction, hkept]
      cases children.filterMap (prune (drop ∘ f)) with
      | nil => rfl
      | cons first others =>
          rw [List.map_cons, if_neg (List.cons_ne_nil _ _), if_neg (List.cons_ne_nil _ _),
            Option.map_some, mapConditions_junction, List.map_cons]
  | negation child ih =>
      rw [mapConditions_negation, prune_negation, prune_negation, ih, Option.map_map,
        Option.map_map]
      rfl

/-- Pruning twice is pruning once by what is dropped either time. -/
theorem prune_bind_prune (drop other : Condition → Bool) (filter : Filter) :
    (prune drop filter).bind (prune other) =
      prune (fun leaf => drop leaf || other leaf) filter := by
  induction filter using treeInduction with
  | condition leaf => cases hdrop : drop leaf <;> simp [hdrop]
  | junction operator children ih =>
      have hkept : (children.filterMap (prune drop)).filterMap (prune other) =
          children.filterMap (prune fun leaf => drop leaf || other leaf) := by
        rw [List.filterMap_filterMap]
        exact List.filterMap_congr ih
      rw [prune_junction, prune_junction]
      by_cases hnone : children.filterMap (prune drop) = []
      · rw [hnone, List.filterMap_nil] at hkept
        rw [if_pos hnone, if_pos hkept.symm, Option.bind_none]
      · rw [if_neg hnone, Option.bind_some, prune_junction, hkept]
  | negation child ih =>
      rw [prune_negation, prune_negation, ← ih]
      cases prune drop child <;> rfl

/-- The first pruning is lost in the second, if that drops what the first one does. -/
theorem prune_prune {weak strong : Condition → Bool}
    (h : ∀ leaf, weak leaf = true → strong leaf = true) (filter : Filter) :
    (prune weak filter).bind (prune strong) = prune strong filter := by
  have heither : (fun leaf => weak leaf || strong leaf) = strong := by
    funext leaf
    rw [Bool.or_eq_right_iff_imp]
    exact h leaf
  rw [prune_bind_prune, heither]

end AnalyticsQuery.Filter
