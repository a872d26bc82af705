import AnalyticsQuery.Proofs.Filter.Meaning

/-!
# What remains of a pruned filter

Pruning takes leaves away and nothing else.  A leaf that remains is under what remains
of the parts it was under, so its connectives are those it had; a part that would be
left without leaves goes with them.
-/

namespace AnalyticsQuery

/-- What a part of a filter does to what stands below it. -/
inductive Connective where
  | junction (operator : Junction)
  | negation
  deriving DecidableEq

namespace Filter

def connective? : Filter → Option Connective
  | condition _ => none
  | junction operator _ => some (.junction operator)
  | negation _ => some .negation

/-! ## The parts above a leaf -/

/-- One more ancestor above a leaf. -/
def under {α : Type} (ancestor : α) (lineage : List α × Condition) : List α × Condition :=
  (ancestor :: lineage.1, lineage.2)

section Lineages

variable {α : Type} (label : Filter → α)

mutual

/-- The leaves of a filter, each with the labels of the parts that it is under, the
outermost first. -/
def lineages : Filter → List (List α × Condition)
  | condition leaf => [([], leaf)]
  | junction operator children =>
      (lineagesOf children).map (under (label (junction operator children)))
  | negation child => (lineages child).map (under (label (negation child)))

def lineagesOf : List Filter → List (List α × Condition)
  | [] => []
  | child :: children => lineages child ++ lineagesOf children

end

theorem lineagesOf_eq_flatMap (children : List Filter) :
    lineagesOf label children = children.flatMap (lineages label) := by
  induction children with
  | nil => rfl
  | cons child children ih => rw [lineagesOf, ih, List.flatMap_cons]

theorem lineages_junction (operator : Junction) (children : List Filter) :
    (junction operator children).lineages label =
      (children.flatMap (lineages label)).map (under (label (junction operator children))) := by
  rw [lineages, lineagesOf_eq_flatMap]

theorem lineages_negation (child : Filter) :
    (negation child).lineages label = (child.lineages label).map (under (label (negation child))) :=
  rfl

/-- Every leaf has one lineage, in the order of the leaves. -/
theorem map_snd_lineages (filter : Filter) :
    (filter.lineages label).map Prod.snd = filter.leaves := by
  have hunder : ∀ ancestor : α, Prod.snd ∘ under ancestor = Prod.snd := fun _ => rfl
  induction filter using treeInduction with
  | condition leaf => rfl
  | junction operator children ih =>
      rw [lineages_junction, List.map_map, hunder, List.map_flatMap, leaves_junction]
      exact List.flatMap_congr ih
  | negation child ih => rw [lineages_negation, List.map_map, hunder, leaves_negation, ih]

end Lineages

/-- The connectives above each leaf. -/
def chains : Filter → List (List (Option Connective) × Condition) := lineages connective?

/-! ## What remains -/

section Remains

variable {drop : Condition → Bool}

theorem filter_map_under {α : Type} (ancestor : α) (lines : List (List α × Condition)) :
    (lines.map (under ancestor)).filter (fun line => !drop line.2) =
      (lines.filter fun line => !drop line.2).map (under ancestor) :=
  List.filter_map

/-- The leaves that remain have the labels above them that they had, if what remains of
a part is labelled as the part was. -/
theorem lineages_prune {α : Type} {label relabel : Filter → α}
    (h : ∀ part kept, prune drop part = some kept → relabel kept = label part)
    (filter : Filter) :
    (prune drop filter).elim [] (lineages relabel) =
      (filter.lineages label).filter fun line => !drop line.2 := by
  induction filter using treeInduction with
  | condition leaf => cases hdrop : drop leaf <;> simp [lineages, hdrop]
  | junction operator children ih =>
      have hkept : (children.filterMap (prune drop)).flatMap (lineages relabel) =
          (children.flatMap (lineages label)).filter fun line => !drop line.2 := by
        rw [flatMap_filterMap, List.filter_flatMap]
        exact List.flatMap_congr ih
      have hself := h (junction operator children)
      rw [prune_junction] at hself ⊢
      rw [lineages_junction, filter_map_under, ← hkept]
      by_cases hnone : children.filterMap (prune drop) = []
      · rw [if_pos hnone, hnone]
        rfl
      · rw [if_neg hnone] at hself ⊢
        rw [Option.elim_some, lineages_junction, hself _ rfl]
  | negation child ih =>
      have hself := h (negation child)
      rw [prune_negation] at hself ⊢
      rw [lineages_negation, filter_map_under, ← ih]
      cases hchild : prune drop child with
      | none => rfl
      | some kept =>
          rw [hchild] at hself
          rw [Option.map_some, Option.elim_some, Option.elim_some, lineages_negation,
            hself _ rfl]

theorem connective?_of_prune {filter kept : Filter} (h : prune drop filter = some kept) :
    kept.connective? = filter.connective? := by
  cases filter with
  | condition leaf =>
      rw [prune_condition, Option.ite_none_left_eq_some] at h
      rw [← Option.some.inj h.2]
  | junction operator children =>
      rw [prune_junction, Option.ite_none_left_eq_some] at h
      rw [← Option.some.inj h.2]
      rfl
  | negation child =>
      rw [prune_negation, Option.map_eq_some_iff] at h
      obtain ⟨inner, -, rfl⟩ := h
      rfl

/-- Every part of what remains is what remains of a part. -/
theorem exists_of_mem_subfilters_prune {filter kept part : Filter}
    (h : prune drop filter = some kept) (hpart : part ∈ kept.subfilters) :
    ∃ whole, prune drop whole = some part := by
  induction filter using treeInduction generalizing kept with
  | condition leaf =>
      obtain ⟨hdrop, hkept⟩ := Option.ite_none_left_eq_some.1 h
      obtain rfl := Option.some.inj hkept
      rw [mem_subfilters_condition.1 hpart]
      exact ⟨condition leaf, h⟩
  | junction operator children ih =>
      have hjunction := h
      rw [prune_junction, Option.ite_none_left_eq_some] at hjunction
      obtain rfl := Option.some.inj hjunction.2
      rcases mem_subfilters_junction.1 hpart with hself | ⟨child, hchild, hbelow⟩
      · rw [hself]
        exact ⟨junction operator children, h⟩
      · obtain ⟨before, hbefore, hprune⟩ := List.mem_filterMap.1 hchild
        exact ih before hbefore hprune hbelow
  | negation child ih =>
      have hnegation := h
      rw [prune_negation, Option.map_eq_some_iff] at hnegation
      obtain ⟨inner, hinner, rfl⟩ := hnegation
      rcases mem_subfilters_negation.1 hpart with hself | hbelow
      · rw [hself]
        exact ⟨negation child, h⟩
      · exact ih hinner hbelow

theorem leaves_ne_nil_of_prune {filter kept : Filter} (h : prune drop filter = some kept) :
    kept.leaves ≠ [] := by
  rw [leaves_of_prune h]
  intro hnone
  have hdropped : ∀ leaf ∈ filter.leaves, drop leaf = true := by
    simpa [List.filter_eq_nil_iff] using hnone
  rw [(prune_eq_none_iff drop filter).2 hdropped] at h
  exact nomatch h

theorem noEmptyJunction_of_leaves {filter : Filter}
    (h : ∀ part ∈ filter.subfilters, part.leaves ≠ []) : filter.NoEmptyJunction := by
  intro operator hempty
  exact h _ hempty (leaves_junction operator [])

end Remains

/-- What pruning may leave of a filter. -/
structure Remains (drop : Condition → Bool) (filter : Filter) (remaining : Option Filter) :
    Prop where
  /-- The leaves are those that are not dropped, in their order. -/
  leaves : remaining.elim [] leaves = filter.leaves.filter fun leaf => !drop leaf
  /-- Each of them is under the connectives that it was under. -/
  chains : remaining.elim [] chains = filter.chains.filter fun line => !drop line.2
  /-- Each of them is under what remains of every part that it was under. -/
  ancestors : remaining.elim [] (lineages some) =
    (filter.lineages (prune drop)).filter fun line => !drop line.2
  none_iff : remaining = none ↔ ∀ leaf ∈ filter.leaves, drop leaf = true
  noEmptyJunction : ∀ kept ∈ remaining, kept.NoEmptyJunction
  /-- Nothing at any depth, a negation included, is without leaves. -/
  parts : ∀ kept ∈ remaining, ∀ part ∈ kept.subfilters, part.leaves ≠ []

theorem remains_prune (drop : Condition → Bool) (filter : Filter) :
    Remains drop filter (prune drop filter) := by
  have hparts : ∀ kept ∈ prune drop filter, ∀ part ∈ kept.subfilters, part.leaves ≠ [] := by
    intro kept hkept part hpart
    obtain ⟨whole, hwhole⟩ := exists_of_mem_subfilters_prune hkept hpart
    exact leaves_ne_nil_of_prune hwhole
  exact {
    leaves := leaves_prune drop filter
    chains := lineages_prune (fun _ _ => connective?_of_prune) filter
    ancestors := lineages_prune (fun _ _ hkept => hkept.symm) filter
    none_iff := prune_eq_none_iff drop filter
    noEmptyJunction := fun kept hkept => noEmptyJunction_of_leaves (hparts kept hkept)
    parts := hparts }

/-- Pruning takes away the dropped leaves, and what is left without leaves with them.
Pruning again is pruning once by either test, so that pruning is idempotent and the
order of two prunings does not matter. -/
theorem prune_takes_leaves (drop other : Condition → Bool) (filter : Filter) :
    Remains drop filter (prune drop filter) ∧
      (prune drop filter).bind (prune other) =
        prune (fun leaf => drop leaf || other leaf) filter ∧
      (prune drop filter).bind (prune drop) = prune drop filter ∧
      (prune drop filter).bind (prune other) = (prune other filter).bind (prune drop) := by
  refine ⟨remains_prune drop filter, prune_bind_prune drop other filter,
    prune_prune (fun _ hdrop => hdrop) filter, ?_⟩
  calc
    (prune drop filter).bind (prune other) =
        prune (fun leaf => drop leaf || other leaf) filter := prune_bind_prune drop other filter
    _ = prune (fun leaf => other leaf || drop leaf) filter := by simp only [Bool.or_comm]
    _ = (prune other filter).bind (prune drop) := (prune_bind_prune other drop filter).symm

/-- The junction that was empty goes, and so does the negation of one. -/
theorem prune_takes_leaves_emptied :
    let kept := condition (.segment (.name "members"))
    let dropped := condition (.segment (.name "gaid::-3"))
    let whole := junction .and
      [junction .or [], negation (junction .and []), negation (junction .or [dropped]),
        junction .or [dropped, negation kept]]
    let remaining := junction .and [junction .or [negation kept]]
    prune Condition.isBuiltinSegment whole = some remaining ∧
      Remains Condition.isBuiltinSegment whole (some remaining) := by
  intro kept dropped whole remaining
  have hprune : prune Condition.isBuiltinSegment whole = some remaining := by decide +kernel
  refine ⟨hprune, ?_⟩
  rw [← hprune]
  exact (prune_takes_leaves Condition.isBuiltinSegment Condition.isBuiltinSegment whole).1

end Filter

end AnalyticsQuery
