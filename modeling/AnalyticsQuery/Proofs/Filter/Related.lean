import AnalyticsQuery.Proofs.Filter.Tree
import Mathlib.Data.List.Forall2

/-!
# Filters of the same shape

Two filters with the same junctions and negations, whose conditions are related place by
place.  What is gathered from the conditions, and what remains of the filters when some
conditions are dropped, is related in the same way.
-/

namespace AnalyticsQuery.Filter

/-- Filters of the same shape with related conditions in the same places. -/
inductive Related (R : Condition → Condition → Prop) : Filter → Filter → Prop
  | condition {leaf other : Condition} : R leaf other →
      Related R (.condition leaf) (.condition other)
  | junction (operator : Junction) {children others : List Filter} :
      List.Forall₂ (Related R) children others →
        Related R (.junction operator children) (.junction operator others)
  | negation {child other : Filter} :
      Related R child other → Related R (.negation child) (.negation other)

variable {R : Condition → Condition → Prop} {filter other : Filter}

/-- Induction on filters of the same shape, with the statement for all children at once. -/
@[elab_as_elim]
theorem Related.relatedInduction {motive : Filter → Filter → Prop} (h : filter.Related R other)
    (condition : ∀ leaf partner, R leaf partner → motive (.condition leaf) (.condition partner))
    (junction : ∀ operator children others, List.Forall₂ (Related R) children others →
      List.Forall₂ motive children others →
        motive (.junction operator children) (.junction operator others))
    (negation : ∀ child other, Related R child other → motive child other →
      motive (.negation child) (.negation other)) :
    motive filter other := by
  induction filter using treeInduction generalizing other with
  | condition leaf =>
      cases h with
      | condition hleaf => exact condition leaf _ hleaf
  | junction operator children ih =>
      cases h with
      | @junction _ _ others hchildren =>
          apply junction operator children others hchildren
          induction hchildren with
          | nil => exact .nil
          | cons hchild _ ihchildren =>
              obtain ⟨hfirst, hrest⟩ := List.forall_mem_cons.1 ih
              exact .cons (hfirst hchild) (ihchildren hrest)
  | negation child ih =>
      cases h with
      | negation hchild => exact negation child _ hchild (ih hchild)

theorem Related.imp {S : Condition → Condition → Prop}
    (himp : ∀ leaf partner, R leaf partner → S leaf partner) (h : filter.Related R other) :
    filter.Related S other := by
  refine h.relatedInduction ?condition ?junction ?negation
  case condition => exact fun leaf partner hleaf => .condition (himp leaf partner hleaf)
  case junction => exact fun operator _ _ _ hchildren => .junction operator hchildren
  case negation => exact fun _ _ _ hchild => .negation hchild

/-! ## Leaves -/

theorem map_eq_of_forall₂ {α β : Type} {f : α → β} {items others : List α}
    (h : List.Forall₂ (fun item other => f item = f other) items others) :
    items.map f = others.map f := by
  induction h with
  | nil => rfl
  | cons hitem _ ih => rw [List.map_cons, List.map_cons, hitem, ih]

/-- A property of conditions that the relation respects is one of the leaves in their order. -/
theorem Related.map_leaves {β : Type} {f : Condition → β}
    (hf : ∀ leaf partner, R leaf partner → f leaf = f partner) (h : filter.Related R other) :
    filter.leaves.map f = other.leaves.map f := by
  refine h.relatedInduction ?condition ?junction ?negation
  case condition =>
    intro leaf partner hleaf
    rw [leaves_condition, leaves_condition, List.map_singleton, List.map_singleton,
      hf leaf partner hleaf]
  case junction =>
    intro operator children others _ hchildren
    rw [leaves_junction, leaves_junction, List.map_flatMap, List.map_flatMap, List.flatMap_def,
      List.flatMap_def, map_eq_of_forall₂ hchildren]
  case negation => exact fun _ _ _ hchild => hchild

/-! ## What remains -/

section Prune

variable {S : Filter → Filter → Prop} {drop : Condition → Bool}

/-- What remains of two junctions is related if what remains of their children is. -/
theorem rel_prune_junction {operator : Junction} {children others : List Filter}
    (hjunction : ∀ {kept keptOthers : List Filter}, List.Forall₂ S kept keptOthers →
      S (junction operator kept) (junction operator keptOthers))
    (h : List.Forall₂ (fun child other => Option.Rel S (prune drop child) (prune drop other))
      children others) :
    Option.Rel S (prune drop (junction operator children))
      (prune drop (junction operator others)) := by
  have hkept : List.Forall₂ S (children.filterMap (prune drop)) (others.filterMap (prune drop)) :=
    List.rel_filterMap (fun _ _ hchild => hchild) h
  rw [prune_junction, prune_junction]
  generalize children.filterMap (prune drop) = kept at hkept ⊢
  generalize others.filterMap (prune drop) = keptOthers at hkept ⊢
  cases hkept with
  | nil => exact .none
  | cons hfirst hrest => exact .some (hjunction (.cons hfirst hrest))

theorem rel_prune_negation {child other : Filter}
    (hnegation : ∀ {kept keptOther : Filter}, S kept keptOther →
      S (negation kept) (negation keptOther))
    (h : Option.Rel S (prune drop child) (prune drop other)) :
    Option.Rel S (prune drop (negation child)) (prune drop (negation other)) := by
  rw [prune_negation, prune_negation]
  generalize prune drop child = kept at h ⊢
  generalize prune drop other = keptOther at h ⊢
  cases h with
  | none => exact .none
  | some hkept => exact .some (hnegation hkept)

end Prune

/-- Pruning leaves filters of the same shape, if of two related conditions both are dropped
or neither is. -/
theorem Related.prune {drop : Condition → Bool}
    (hdrop : ∀ leaf partner, R leaf partner → drop leaf = drop partner)
    (h : filter.Related R other) :
    Option.Rel (Related R) (filter.prune drop) (other.prune drop) := by
  refine h.relatedInduction ?condition ?junction ?negation
  case condition =>
    intro leaf partner hleaf
    rw [prune_condition, prune_condition, hdrop leaf partner hleaf]
    cases drop partner with
    | true => exact .none
    | false => exact .some (.condition hleaf)
  case junction =>
    exact fun operator _ _ _ hchildren => rel_prune_junction (.junction operator) hchildren
  case negation => exact fun _ _ _ hchild => rel_prune_negation .negation hchild

end AnalyticsQuery.Filter
