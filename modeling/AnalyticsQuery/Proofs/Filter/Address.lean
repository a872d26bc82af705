import AnalyticsQuery.Proofs.Filter.Tree
import Mathlib.Data.List.Infix
import Mathlib.Data.List.Nodup

/-!
# Addresses in a filter

The address of a part of a filter is the list of child indices on the way down to it.
The clauses of a condition have one more index, which tells the two clauses of a range
apart; these addresses are the sites of the filter.  What joins two sites, and what
negates one, is read off the parts at the prefixes of their addresses.
-/

namespace AnalyticsQuery

/-- Number of clauses that a condition is written as. -/
def Condition.clauseCount : Condition → Nat
  | between _ _ _ => 2
  | _ => 1

theorem Condition.clauseCount_pos (leaf : Condition) : 0 < leaf.clauseCount := by
  cases leaf <;> exact Nat.zero_lt_succ _

/-- The longest common prefix of two addresses. -/
def commonAddress : List Nat → List Nat → List Nat
  | left :: lefts, right :: rights =>
      if left = right then left :: commonAddress lefts rights else []
  | _, _ => []

namespace Filter

def children : Filter → List Filter
  | condition _ => []
  | junction _ children => children
  | negation child => [child]

/-- The part of a filter at an address. -/
def subfilter? (filter : Filter) : List Nat → Option Filter
  | [] => some filter
  | index :: rest => filter.children[index]?.bind (subfilter? · rest)

mutual

/-- Addresses of the clauses of a filter, depth first. -/
def sites : Filter → List (List Nat)
  | condition leaf => (List.range leaf.clauseCount).map ([·])
  | junction _ children => sitesFrom 0 children
  | negation child => (sites child).map (0 :: ·)

/-- Sites of several filters, which are the children from `index` on. -/
def sitesFrom (index : Nat) : List Filter → List (List Nat)
  | [] => []
  | child :: children => (sites child).map (index :: ·) ++ sitesFrom (index + 1) children

end

def isNegation : Filter → Bool
  | negation _ => true
  | _ => false

/-- The junction of what stands below a filter; the clauses of a range are joined by "and". -/
def junction? : Filter → Option Junction
  | condition _ => some .and
  | junction operator _ => some operator
  | negation _ => none

/-- The junction at the lowest common ancestor of two sites. -/
def joinedBy (filter : Filter) (left right : List Nat) : Option Junction :=
  (filter.subfilter? (commonAddress left right)).bind junction?

/-- Number of negations whose first site is the given one. -/
def negationsAt (filter : Filter) (site : List Nat) : Nat :=
  site.inits.countP fun address =>
    (filter.subfilter? address).any isNegation &&
      filter.sites.find? address.isPrefixOf = some site

/-! ## Sites of the children -/

theorem sites_negation (child : Filter) : (negation child).sites = sitesFrom 0 [child] :=
  (List.append_nil _).symm

/-- A site of one of several filters starts with the index of that filter. -/
theorem exists_of_mem_sitesFrom {index : Nat} {children : List Filter} {site : List Nat}
    (h : site ∈ sitesFrom index children) :
    ∃ offset child rest, children[offset]? = some child ∧ rest ∈ child.sites ∧
      site = (index + offset) :: rest := by
  induction children generalizing index with
  | nil => exact absurd h List.not_mem_nil
  | cons child children ih =>
      rw [sitesFrom, List.mem_append] at h
      rcases h with hfirst | hrest
      · obtain ⟨rest, hrest, rfl⟩ := List.mem_map.1 hfirst
        exact ⟨0, child, rest, rfl, hrest, rfl⟩
      · obtain ⟨offset, other, rest, hother, hmem, rfl⟩ := ih hrest
        refine ⟨offset + 1, other, rest, hother, hmem, ?_⟩
        rw [Nat.add_right_comm, Nat.add_assoc]

theorem sitesFrom_eq_nil_iff {index : Nat} {children : List Filter} :
    sitesFrom index children = [] ↔ ∀ child ∈ children, child.sites = [] := by
  induction children generalizing index with
  | nil => simp [sitesFrom]
  | cons child children ih =>
      rw [sitesFrom, List.append_eq_nil_iff, List.map_eq_nil_iff, ih, List.forall_mem_cons]

/-- What is said of the sites of several filters is said of the sites of each. -/
theorem map_sitesFrom {α : Type} {index : Nat} {children : List Filter}
    (whole : List Nat → α) (part : Filter → List Nat → α)
    (h : ∀ offset child, children[offset]? = some child →
      ∀ rest ∈ child.sites, whole ((index + offset) :: rest) = part child rest) :
    (sitesFrom index children).map whole =
      children.flatMap fun child => child.sites.map (part child) := by
  induction children generalizing index with
  | nil => rfl
  | cons child children ih =>
      have hfirst : (child.sites.map (index :: ·)).map whole = child.sites.map (part child) := by
        rw [List.map_map]
        apply List.map_congr_left
        intro rest hrest
        exact h 0 child rfl rest hrest
      have hothers : (sitesFrom (index + 1) children).map whole =
          children.flatMap fun other => other.sites.map (part other) := by
        apply ih
        intro offset other hother rest hrest
        rw [Nat.add_assoc, Nat.add_comm 1]
        exact h (offset + 1) other hother rest hrest
      rw [sitesFrom, List.map_append, hfirst, hothers, List.flatMap_cons]

theorem find?_sitesFrom_eq_none {index first : Nat} (hlt : index < first)
    (children : List Filter) (address : List Nat) :
    (sitesFrom first children).find? (index :: address).isPrefixOf = none := by
  rw [List.find?_eq_none]
  intro site hsite
  obtain ⟨offset, _, rest, _, _, rfl⟩ := exists_of_mem_sitesFrom hsite
  have hne : (index == first + offset) = false := by
    rw [beq_eq_false_iff_ne]
    omega
  rw [List.isPrefixOf_cons_cons, hne]
  exact Bool.false_ne_true

theorem find?_map_cons (index : Nat) (sites : List (List Nat)) (address : List Nat) :
    (sites.map (index :: ·)).find? (index :: address).isPrefixOf =
      (sites.find? address.isPrefixOf).map (index :: ·) := by
  rw [List.find?_map]
  have hsame : (index :: address).isPrefixOf ∘ (index :: ·) = address.isPrefixOf := by
    funext site
    rw [Function.comp_apply, List.isPrefixOf_cons_cons, beq_self_eq_true, Bool.true_and]
  rw [hsame]

theorem find?_map_cons_of_ne {index other : Nat} (hne : index ≠ other)
    (sites : List (List Nat)) (address : List Nat) :
    (sites.map (other :: ·)).find? (index :: address).isPrefixOf = none := by
  rw [List.find?_eq_none]
  intro site hsite
  obtain ⟨rest, _, rfl⟩ := List.mem_map.1 hsite
  rw [List.isPrefixOf_cons_cons, beq_eq_false_iff_ne.2 hne]
  exact Bool.false_ne_true

/-- The first site below an address is found in the child that the address leads to. -/
theorem find?_sitesFrom {children : List Filter} {offset : Nat} {child : Filter}
    (hchild : children[offset]? = some child) (index : Nat) (address : List Nat) :
    (sitesFrom index children).find? ((index + offset) :: address).isPrefixOf =
      (child.sites.find? address.isPrefixOf).map ((index + offset) :: ·) := by
  induction children generalizing index offset with
  | nil => exact nomatch hchild
  | cons first children ih =>
      rw [sitesFrom, List.find?_append]
      cases offset with
      | zero =>
          obtain rfl : first = child := Option.some.inj hchild
          rw [Nat.add_zero, find?_map_cons,
            find?_sitesFrom_eq_none (Nat.lt_succ_self index), Option.or_none]
      | succ offset =>
          have hne : index + (offset + 1) ≠ index := by omega
          have hindex : index + (offset + 1) = index + 1 + offset := by omega
          rw [find?_map_cons_of_ne hne, Option.none_or, hindex]
          exact ih hchild (index + 1)

theorem ne_nil_of_mem_sites {filter : Filter} {site : List Nat} (h : site ∈ filter.sites) :
    site ≠ [] := by
  cases filter with
  | condition leaf =>
      obtain ⟨_, _, rfl⟩ := List.mem_map.1 h
      exact List.cons_ne_nil _ _
  | junction operator children =>
      obtain ⟨_, _, _, _, _, rfl⟩ := exists_of_mem_sitesFrom h
      exact List.cons_ne_nil _ _
  | negation child =>
      obtain ⟨_, _, rfl⟩ := List.mem_map.1 h
      exact List.cons_ne_nil _ _

theorem pairwise_map_cons {sites : List (List Nat)} (index : Nat)
    (h : sites.Pairwise (· < ·)) : (sites.map (index :: ·)).Pairwise (· < ·) := by
  rw [List.pairwise_map]
  exact h.imp fun hlt => List.cons_lt_cons_self.2 hlt

/-- Sites are listed in the order of their addresses, and none of them twice. -/
theorem pairwise_sites (filter : Filter) : filter.sites.Pairwise (· < ·) := by
  induction filter using treeInduction with
  | condition leaf =>
      rw [sites, List.pairwise_map]
      apply List.pairwise_lt_range.imp
      intro left right hlt
      exact List.cons_lt_cons_iff.2 (.inl hlt)
  | junction operator children ih =>
      suffices hfrom : ∀ index, (sitesFrom index children).Pairwise (· < ·) from hfrom 0
      induction children with
      | nil => exact fun _ => .nil
      | cons child children ihchildren =>
          intro index
          have hfirst := pairwise_map_cons index (ih child List.mem_cons_self)
          have hrest := ihchildren (fun other hother => ih other (List.mem_cons_of_mem _ hother))
          rw [sitesFrom, List.pairwise_append]
          refine ⟨hfirst, hrest _, ?_⟩
          intro left hleft right hright
          obtain ⟨_, _, rfl⟩ := List.mem_map.1 hleft
          obtain ⟨offset, _, _, _, _, rfl⟩ := exists_of_mem_sitesFrom hright
          rw [List.cons_lt_cons_iff]
          exact .inl (by omega)
  | negation child ih => exact pairwise_map_cons 0 ih

theorem nodup_sites (filter : Filter) : filter.sites.Nodup := by
  apply (pairwise_sites filter).imp
  intro left right hlt heq
  rw [heq] at hlt
  exact List.lt_irrefl right hlt

/-! ## Descending by one index -/

@[simp]
theorem subfilter?_nil (filter : Filter) : filter.subfilter? [] = some filter := rfl

theorem subfilter?_cons {filter child : Filter} {index : Nat}
    (hchild : filter.children[index]? = some child) (address : List Nat) :
    filter.subfilter? (index :: address) = child.subfilter? address := by
  rw [subfilter?, hchild, Option.bind_some]

/-- Whether the clauses of a filter are those of its children. -/
theorem sites_eq_sitesFrom {filter child : Filter} {index : Nat}
    (hchild : filter.children[index]? = some child) :
    filter.sites = sitesFrom 0 filter.children := by
  cases filter with
  | condition leaf => exact nomatch hchild
  | junction operator children => rfl
  | negation child => exact sites_negation child

theorem find?_sites_cons {filter child : Filter} {index : Nat}
    (hchild : filter.children[index]? = some child) (address : List Nat) :
    filter.sites.find? (index :: address).isPrefixOf =
      (child.sites.find? address.isPrefixOf).map (index :: ·) := by
  have hfind := find?_sitesFrom hchild 0 address
  rw [Nat.zero_add] at hfind
  rw [sites_eq_sitesFrom hchild, hfind]

theorem find?_isPrefixOf_nil (sites : List (List Nat)) :
    sites.find? ([] : List Nat).isPrefixOf = sites.head? := by
  cases sites <;> rfl

/-- The negations above a site are those above it in a child, and the filter itself if
it is a negation whose first site this is. -/
theorem negationsAt_cons {filter child : Filter} {index : Nat}
    (hchild : filter.children[index]? = some child) (rest : List Nat) :
    filter.negationsAt (index :: rest) = child.negationsAt rest +
      if filter.isNegation ∧ filter.sites.head? = some (index :: rest) then 1 else 0 := by
  unfold negationsAt
  rw [List.inits_cons, List.countP_cons, List.countP_map, subfilter?_nil, find?_isPrefixOf_nil]
  congr 1
  · apply List.countP_congr
    intro address _
    have hsite : ((child.sites.find? address.isPrefixOf).map (index :: ·) = some (index :: rest)) ↔
        child.sites.find? address.isPrefixOf = some rest := by
      constructor
      · intro h
        obtain ⟨site, hsite, hcons⟩ := Option.map_eq_some_iff.1 h
        rw [hsite, (List.cons.inj hcons).2]
      · intro h
        rw [h, Option.map_some]
    rw [Function.comp_apply, subfilter?_cons hchild, find?_sites_cons hchild]
    simp only [hsite]
  · simp

/-- The junction between two sites is that of the filter itself if they part at once. -/
theorem joinedBy_cons_of_ne (filter : Filter) {left right : Nat} (hne : left ≠ right)
    (lefts rights : List Nat) :
    filter.joinedBy (left :: lefts) (right :: rights) = filter.junction? := by
  rw [joinedBy, commonAddress, if_neg hne, subfilter?_nil, Option.bind_some]

theorem joinedBy_cons_self {filter child : Filter} {index : Nat}
    (hchild : filter.children[index]? = some child) (lefts rights : List Nat) :
    filter.joinedBy (index :: lefts) (index :: rights) = child.joinedBy lefts rights := by
  rw [joinedBy, commonAddress, if_pos rfl, subfilter?_cons hchild, joinedBy]

/-- Every site is below the address of its condition. -/
theorem subfilter?_sites (filter : Filter) :
    filter.sites.map (fun site => filter.subfilter? site.dropLast) =
      filter.leaves.flatMap fun leaf =>
        List.replicate leaf.clauseCount (some (condition leaf)) := by
  have hdescend : ∀ {parent child : Filter} {index : Nat},
      parent.children[index]? = some child → ∀ rest ∈ child.sites,
        parent.subfilter? (index :: rest).dropLast = child.subfilter? rest.dropLast := by
    intro parent child index hchild rest hrest
    rw [List.dropLast_cons_of_ne_nil (ne_nil_of_mem_sites hrest), subfilter?_cons hchild]
  induction filter using treeInduction with
  | condition leaf => cases leaf <;> rfl
  | junction operator children ih =>
      have hparts : (sitesFrom 0 children).map
          (fun site => (junction operator children).subfilter? site.dropLast) =
            children.flatMap fun child =>
              child.sites.map fun rest => child.subfilter? rest.dropLast := by
        apply map_sitesFrom _ fun child rest => child.subfilter? rest.dropLast
        intro offset child hchild rest hrest
        rw [Nat.zero_add]
        exact hdescend hchild rest hrest
      rw [sites, hparts, leaves_junction, List.flatMap_assoc]
      exact List.flatMap_congr ih
  | negation child ih =>
      rw [sites, List.map_map, leaves_negation, ← ih]
      apply List.map_congr_left
      intro rest hrest
      exact hdescend rfl rest hrest

end Filter

end AnalyticsQuery
