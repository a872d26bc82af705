import AnalyticsQuery.Proofs.Filter.Tree

/-!
# Parts of a filter

All filters that occur in a filter, itself included.  A statement about every
junction or negation "at any depth" is one about the members of this list.
-/

namespace AnalyticsQuery.Filter

mutual

/-- A filter and everything below it, each filter before its children. -/
def subfilters : Filter → List Filter
  | condition leaf => [condition leaf]
  | junction operator children => junction operator children :: subfiltersOf children
  | negation child => negation child :: subfilters child

def subfiltersOf : List Filter → List Filter
  | [] => []
  | child :: children => subfilters child ++ subfiltersOf children

end

theorem subfiltersOf_eq_flatMap (children : List Filter) :
    subfiltersOf children = children.flatMap subfilters := by
  induction children with
  | nil => rfl
  | cons child children ih => rw [subfiltersOf, ih, List.flatMap_cons]

@[simp]
theorem mem_subfilters_condition {part : Filter} {leaf : Condition} :
    part ∈ (condition leaf).subfilters ↔ part = condition leaf := List.mem_singleton

@[simp]
theorem mem_subfilters_junction {part : Filter} {operator : Junction} {children : List Filter} :
    part ∈ (junction operator children).subfilters ↔
      part = junction operator children ∨ ∃ child ∈ children, part ∈ child.subfilters := by
  rw [subfilters, List.mem_cons, subfiltersOf_eq_flatMap, List.mem_flatMap]

@[simp]
theorem mem_subfilters_negation {part child : Filter} :
    part ∈ (negation child).subfilters ↔ part = negation child ∨ part ∈ child.subfilters :=
  List.mem_cons

end AnalyticsQuery.Filter
