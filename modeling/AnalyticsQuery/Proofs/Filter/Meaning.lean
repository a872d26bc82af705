import AnalyticsQuery.Proofs.Filter.Subfilters
import AnalyticsQuery.Proofs.FilterText.Groups

/-!
# The meaning of a filter

Given whether each condition holds, a filter holds as its junctions and negations say.
A junction without children says nothing in particular; filters that have none at any
depth are singled out.
-/

namespace AnalyticsQuery

namespace Junction

/-- The value of a junction all of whose parts have that value. -/
def truth : Junction → Bool
  | .and => true
  | .or => false

def combine : Junction → List Bool → Bool
  | .and, values => values.all id
  | .or, values => values.any id

theorem combine_eq_truth_iff {junction : Junction} {values : List Bool} :
    junction.combine values = junction.truth ↔ ∀ value ∈ values, value = junction.truth := by
  cases junction <;> simp [combine, truth]

theorem combine_eq_truth_of_ne {junction separator : Junction} (hne : junction ≠ separator)
    {values : List Bool} :
    junction.combine values = separator.truth ↔ ∃ value ∈ values, value = separator.truth := by
  cases junction <;> cases separator <;> first | exact absurd rfl hne | simp [combine, truth]

end Junction

namespace Filter

section Holds

variable (value : Condition → Bool)

mutual

/-- Whether a filter holds, if its conditions have the given values. -/
def holds : Filter → Bool
  | condition leaf => value leaf
  | junction operator children => operator.combine (holdsEach children)
  | negation child => !holds child

def holdsEach : List Filter → List Bool
  | [] => []
  | child :: children => holds child :: holdsEach children

end

end Holds

variable {value : Condition → Bool}

theorem holdsEach_eq_map (children : List Filter) :
    holdsEach value children = children.map (holds value) := by
  induction children with
  | nil => rfl
  | cons child children ih => rw [holdsEach, ih, List.map_cons]

@[simp]
theorem holds_condition (leaf : Condition) : (condition leaf).holds value = value leaf := rfl

@[simp]
theorem holds_junction (operator : Junction) (children : List Filter) :
    (junction operator children).holds value =
      operator.combine (children.map (holds value)) := by
  rw [holds, holdsEach_eq_map]

@[simp]
theorem holds_negation (child : Filter) : (negation child).holds value = !child.holds value := rfl

/-- No junction at any depth is without children. -/
def NoEmptyJunction (filter : Filter) : Prop :=
  ∀ operator, junction operator [] ∉ filter.subfilters

theorem noEmptyJunction_condition (leaf : Condition) : (condition leaf).NoEmptyJunction := by
  intro operator h
  exact nomatch mem_subfilters_condition.1 h

@[simp]
theorem noEmptyJunction_junction {operator : Junction} {children : List Filter} :
    (junction operator children).NoEmptyJunction ↔
      children ≠ [] ∧ ∀ child ∈ children, child.NoEmptyJunction := by
  constructor
  · intro h
    refine ⟨?_, ?_⟩
    · rintro rfl
      exact h operator (mem_subfilters_junction.2 (.inl rfl))
    · intro child hchild inner hinner
      exact h inner (mem_subfilters_junction.2 (.inr ⟨child, hchild, hinner⟩))
  · rintro ⟨hne, hchildren⟩ inner hinner
    rcases mem_subfilters_junction.1 hinner with hself | ⟨child, hchild, hpart⟩
    · exact hne (Filter.junction.inj hself).2.symm
    · exact hchildren child hchild inner hpart

@[simp]
theorem noEmptyJunction_negation {child : Filter} :
    (negation child).NoEmptyJunction ↔ child.NoEmptyJunction := by
  constructor
  · intro h operator hpart
    exact h operator (mem_subfilters_negation.2 (.inr hpart))
  · intro h operator hpart
    rcases mem_subfilters_negation.1 hpart with hself | hbelow
    · exact nomatch hself
    · exact h operator hbelow

end Filter

end AnalyticsQuery
