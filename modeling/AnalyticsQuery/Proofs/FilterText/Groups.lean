import AnalyticsQuery.Proofs.FilterText.Chain

/-!
# Groups of a chain

Cutting a chain at one kind of separator leaves groups that the other kind joins.
A chain is covered by a property if each of its groups has a piece with it.  Reading
`;` first or `,` first comes down to what covers the groups of a text.
-/

namespace AnalyticsQuery

/-- The junction that a separator does not stand for. -/
def Junction.other : Junction → Junction
  | .and => .or
  | .or => .and

theorem Junction.eq_other_of_ne {left right : Junction} (h : left ≠ right) :
    left = right.other := by
  cases left <;> cases right <;> first | rfl | exact absurd rfl h

theorem Junction.other_ne (junction : Junction) : junction.other ≠ junction := by
  cases junction <;> exact Junction.noConfusion

namespace FilterText.Chain

variable {α β : Type}

/-- The parts of a chain between separators of one kind. -/
def groups (separator : Junction) : Chain α → List (List α)
  | single piece => [[piece]]
  | link piece junction rest =>
      if junction = separator then [piece] :: groups separator rest
      else (groups separator rest).modifyHead (piece :: ·)

theorem exists_groups_eq_cons (separator : Junction) (chain : Chain α) :
    ∃ first others, chain.groups separator = first :: others := by
  induction chain with
  | single piece => exact ⟨[piece], [], rfl⟩
  | link piece junction rest ih =>
      obtain ⟨first, others, hrest⟩ := ih
      by_cases hseparator : junction = separator
      · exact ⟨[piece], rest.groups separator, if_pos hseparator⟩
      · refine ⟨piece :: first, others, ?_⟩
        rw [groups, if_neg hseparator, hrest, List.modifyHead_cons]

theorem groups_ne_nil (separator : Junction) (chain : Chain α) : chain.groups separator ≠ [] := by
  obtain ⟨first, others, h⟩ := exists_groups_eq_cons separator chain
  rw [h]
  exact List.cons_ne_nil first others

theorem groups_map (f : α → β) (separator : Junction) (chain : Chain α) :
    (chain.map f).groups separator = (chain.groups separator).map (List.map f) := by
  induction chain with
  | single piece => rfl
  | link piece junction rest ih =>
      rw [map, groups, groups, ih]
      by_cases hseparator : junction = separator
      · rw [if_pos hseparator, if_pos hseparator]
        rfl
      · rw [if_neg hseparator, if_neg hseparator]
        cases rest.groups separator <;> rfl

/-- Every group has a piece, and the groups together have those of the chain. -/
theorem ne_nil_of_mem_groups {separator : Junction} {chain : Chain α} {group : List α}
    (h : group ∈ chain.groups separator) : group ≠ [] := by
  induction chain generalizing group with
  | single piece =>
      rw [List.mem_singleton.1 h]
      exact List.cons_ne_nil _ _
  | link piece junction rest ih =>
      rw [groups] at h
      obtain ⟨first, others, hrest⟩ := exists_groups_eq_cons separator rest
      rw [hrest] at h ih
      split at h
      · rcases List.mem_cons.1 h with rfl | hgroup
        · exact List.cons_ne_nil _ _
        · exact ih hgroup
      · rcases List.mem_cons.1 h with rfl | hgroup
        · exact List.cons_ne_nil _ _
        · exact ih (List.mem_cons_of_mem _ hgroup)

theorem flatten_groups (separator : Junction) (chain : Chain α) :
    (chain.groups separator).flatten = chain.pieces := by
  induction chain with
  | single piece => rfl
  | link piece junction rest ih =>
      obtain ⟨first, others, hrest⟩ := exists_groups_eq_cons separator rest
      rw [groups, pieces, ← ih, hrest]
      split <;> rfl

theorem mem_pieces_of_mem_groups {separator : Junction} {chain : Chain α} {group : List α}
    (hgroup : group ∈ chain.groups separator) {piece : α} (hpiece : piece ∈ group) :
    piece ∈ chain.pieces := by
  rw [← flatten_groups separator chain]
  exact List.mem_flatten_of_mem hgroup hpiece

theorem join_cons_single (junction : Junction) (piece : α) {chains : List (Chain α)}
    (hne : chains ≠ []) :
    join junction (single piece :: chains) = (join junction chains).map (link piece junction) := by
  rw [join]
  cases hchains : join junction chains with
  | none => exact absurd (join_eq_none_iff.1 hchains) hne
  | some rest => rfl

theorem join_cons_link (separator : Junction) (piece : α) (junction : Junction)
    (chain : Chain α) (chains : List (Chain α)) :
    join separator (link piece junction chain :: chains) =
      (join separator (chain :: chains)).map (link piece junction) := by
  rw [join, join]
  cases join separator chains <;> rfl

/-- Joining each group by one junction, and the groups by the other, gives the chain back. -/
theorem join_groups (separator : Junction) (chain : Chain α) :
    join separator ((chain.groups separator).filterMap fun group =>
      join separator.other (group.map single)) = some chain := by
  induction chain with
  | single piece => rfl
  | link piece junction rest ih =>
      rw [groups]
      by_cases hseparator : junction = separator
      · have hne : ((rest.groups separator).filterMap fun group =>
            join separator.other (group.map single)) ≠ [] := by
          intro hnil
          rw [hnil] at ih
          exact nomatch ih
        rw [if_pos hseparator, List.filterMap_cons]
        change join separator (single piece :: _) = _
        rw [join_cons_single separator piece hne, ih, hseparator]
        rfl
      · obtain rfl := Junction.eq_other_of_ne hseparator
        obtain ⟨first, others, hrest⟩ := exists_groups_eq_cons separator rest
        have hfirst : first.map single ≠ [] := by
          rw [Ne, List.map_eq_nil_iff]
          exact ne_nil_of_mem_groups (hrest ▸ List.mem_cons_self)
        rw [hrest, List.filterMap_cons] at ih
        rw [if_neg hseparator, hrest, List.modifyHead_cons, List.filterMap_cons, List.map_cons,
          join_cons_single _ piece hfirst]
        cases hjoined : join separator.other (first.map single) with
        | none => exact absurd (join_eq_none_iff.1 hjoined) hfirst
        | some joined =>
            rw [hjoined] at ih
            exact (join_cons_link separator piece _ joined _).trans (congrArg _ ih)

/-! ## Groups of joined chains -/

theorem groups_append_self (separator : Junction) (left right : Chain α) :
    (append separator left right).groups separator =
      left.groups separator ++ right.groups separator := by
  induction left with
  | single piece => exact if_pos rfl
  | link piece junction rest ih =>
      rw [append, groups, groups, ih]
      by_cases hseparator : junction = separator
      · rw [if_pos hseparator, if_pos hseparator, List.cons_append]
      · obtain ⟨first, others, hrest⟩ := exists_groups_eq_cons separator rest
        rw [if_neg hseparator, if_neg hseparator, hrest]
        rfl

theorem groups_join_self {separator : Junction} {chains : List (Chain α)} {chain : Chain α}
    (hjoin : join separator chains = some chain) :
    chain.groups separator = chains.flatMap (groups separator) := by
  induction chains generalizing chain with
  | nil => exact nomatch hjoin
  | cons first others ih =>
      rw [join] at hjoin
      rw [List.flatMap_cons]
      cases hothers : join separator others with
      | none =>
          rw [hothers] at hjoin
          rw [← Option.some.inj hjoin, join_eq_none_iff.1 hothers]
          exact (List.append_nil _).symm
      | some rest =>
          rw [hothers] at hjoin
          rw [← Option.some.inj hjoin, groups_append_self, ih hothers]

/-- Two chains of one group each make one group if the other junction joins them. -/
theorem groups_append_other {separator : Junction} {left right : Chain α}
    (hleft : left.groups separator = [left.pieces])
    (hright : right.groups separator = [right.pieces]) :
    (append separator.other left right).groups separator = [left.pieces ++ right.pieces] := by
  induction left with
  | single piece =>
      rw [append, groups, if_neg separator.other_ne, hright]
      rfl
  | link piece junction rest ih =>
      rw [groups] at hleft
      by_cases hseparator : junction = separator
      · rw [if_pos hseparator] at hleft
        exact absurd (List.tail_eq_of_cons_eq hleft) (groups_ne_nil separator rest)
      · obtain ⟨first, others, hrest⟩ := exists_groups_eq_cons separator rest
        rw [if_neg hseparator, hrest] at hleft
        obtain ⟨hpieces, rfl⟩ := List.cons.inj hleft
        rw [List.tail_eq_of_cons_eq hpieces] at hrest
        rw [append, groups, if_neg hseparator, ih hrest]
        rfl

theorem groups_join_other {separator : Junction} {chains : List (Chain α)} {chain : Chain α}
    (hjoin : join separator.other chains = some chain)
    (hchains : ∀ part ∈ chains, part.groups separator = [part.pieces]) :
    chain.groups separator = [chain.pieces] := by
  induction chains generalizing chain with
  | nil => exact nomatch hjoin
  | cons first others ih =>
      rw [List.forall_mem_cons] at hchains
      rw [join] at hjoin
      cases hothers : join separator.other others with
      | none =>
          rw [hothers] at hjoin
          rw [← Option.some.inj hjoin]
          exact hchains.1
      | some rest =>
          rw [hothers] at hjoin
          rw [← Option.some.inj hjoin, groups_append_other hchains.1 (ih hothers hchains.2),
            pieces_append]

/-! ## Covered groups -/

/-- Whether each group of a chain has a piece with a property; `found` says that the
first group has had one before. -/
def Covered (separator : Junction) (property : α → Prop) (found : Prop) : Chain α → Prop
  | single piece => found ∨ property piece
  | link piece junction rest =>
      if junction = separator then (found ∨ property piece) ∧ Covered separator property False rest
      else Covered separator property (found ∨ property piece) rest

theorem covered_iff_cons {separator : Junction} {property : α → Prop} {found : Prop}
    {chain : Chain α} {first : List α} {others : List (List α)}
    (h : chain.groups separator = first :: others) :
    chain.Covered separator property found ↔
      (found ∨ ∃ piece ∈ first, property piece) ∧
        ∀ group ∈ others, ∃ piece ∈ group, property piece := by
  induction chain generalizing found first others with
  | single piece =>
      obtain ⟨rfl, rfl⟩ := List.cons.inj h
      simp [Covered]
  | link piece junction rest ih =>
      obtain ⟨next, later, hrest⟩ := exists_groups_eq_cons separator rest
      rw [groups, hrest] at h
      rw [Covered]
      by_cases hseparator : junction = separator
      · rw [if_pos hseparator] at h ⊢
        obtain ⟨rfl, rfl⟩ := List.cons.inj h
        rw [ih hrest]
        simp
      · rw [if_neg hseparator] at h ⊢
        obtain ⟨rfl, rfl⟩ := List.cons.inj h
        rw [ih hrest]
        simp [or_assoc]

theorem covered_iff {separator : Junction} {property : α → Prop} {chain : Chain α} :
    chain.Covered separator property False ↔
      ∀ group ∈ chain.groups separator, ∃ piece ∈ group, property piece := by
  obtain ⟨first, others, h⟩ := exists_groups_eq_cons separator chain
  rw [covered_iff_cons h, h, List.forall_mem_cons, false_or]

theorem covered_append_self {separator : Junction} {property : α → Prop} {found : Prop}
    {left right : Chain α} :
    (append separator left right).Covered separator property found ↔
      left.Covered separator property found ∧ right.Covered separator property False := by
  induction left generalizing found with
  | single piece =>
      rw [append]
      exact iff_of_eq (if_pos rfl)
  | link piece junction rest ih =>
      rw [append, Covered, Covered]
      by_cases hseparator : junction = separator
      · rw [if_pos hseparator, if_pos hseparator, ih, and_assoc]
      · rw [if_neg hseparator, if_neg hseparator, ih]

/-- What was found before the first group matters only to that group. -/
theorem Covered.of_found {separator : Junction} {property : α → Prop} {found : Prop}
    {chain : Chain α} (h : chain.Covered separator property found) :
    found ∨ chain.Covered separator property False := by
  obtain ⟨first, others, hgroups⟩ := exists_groups_eq_cons separator chain
  rw [covered_iff_cons hgroups] at h ⊢
  obtain ⟨hfound | hfirst, hothers⟩ := h
  · exact .inl hfound
  · exact .inr ⟨.inr hfirst, hothers⟩

/-- If another junction joins two chains, one of them is covered when both together are:
only the group in the middle is shared, and one side has its piece. -/
theorem Covered.of_append {separator junction : Junction} {property : α → Prop} {found : Prop}
    {left right : Chain α} (hne : junction ≠ separator)
    (h : (append junction left right).Covered separator property found) :
    left.Covered separator property found ∨ right.Covered separator property False := by
  induction left generalizing found with
  | single piece =>
      rw [append, Covered, if_neg hne] at h
      exact h.of_found
  | link piece inner rest ih =>
      rw [append, Covered] at h
      rw [Covered]
      by_cases hseparator : inner = separator
      · rw [if_pos hseparator] at h ⊢
        rcases ih h.2 with hrest | hright
        · exact .inl ⟨h.1, hrest⟩
        · exact .inr hright
      · rw [if_neg hseparator] at h ⊢
        exact ih h

theorem Covered.of_join_self {separator : Junction} {property : α → Prop}
    {chains : List (Chain α)} {chain : Chain α} (hjoin : join separator chains = some chain)
    (h : chain.Covered separator property False) :
    ∀ part ∈ chains, part.Covered separator property False := by
  induction chains generalizing chain with
  | nil => exact nomatch hjoin
  | cons first others ih =>
      rw [List.forall_mem_cons]
      rw [join] at hjoin
      cases hothers : join separator others with
      | none =>
          rw [hothers] at hjoin
          rw [Option.some.inj hjoin, join_eq_none_iff.1 hothers]
          exact ⟨h, fun _ hnone => absurd hnone List.not_mem_nil⟩
      | some rest =>
          rw [hothers] at hjoin
          rw [← Option.some.inj hjoin, covered_append_self] at h
          exact ⟨h.1, ih hothers h.2⟩

theorem Covered.of_join {separator junction : Junction} {property : α → Prop}
    {chains : List (Chain α)} {chain : Chain α} (hne : junction ≠ separator)
    (hjoin : join junction chains = some chain)
    (h : chain.Covered separator property False) :
    ∃ part ∈ chains, part.Covered separator property False := by
  induction chains generalizing chain with
  | nil => exact nomatch hjoin
  | cons first others ih =>
      rw [join] at hjoin
      cases hothers : join junction others with
      | none =>
          rw [hothers] at hjoin
          rw [← Option.some.inj hjoin] at h
          exact ⟨first, List.mem_cons_self, h⟩
      | some rest =>
          rw [hothers] at hjoin
          rw [← Option.some.inj hjoin] at h
          rcases h.of_append hne with hfirst | hrest
          · exact ⟨first, List.mem_cons_self, hfirst⟩
          · obtain ⟨part, hpart, hcovered⟩ := ih hothers hrest
            exact ⟨part, List.mem_cons_of_mem _ hpart, hcovered⟩

/-! ## Parts of a chain -/

def head : Chain α → α
  | single piece => piece
  | link piece _ _ => piece

/-- A piece is the first one of a chain, or of what follows a junction in it. -/
theorem exists_suffix {chain : Chain α} {piece : α} (h : piece ∈ chain.pieces) :
    ∃ rest, rest.head = piece ∧
      (chain = rest ∨ ∃ junction before, chain = append junction before rest) := by
  induction chain with
  | single first =>
      rw [List.mem_singleton.1 h]
      exact ⟨single first, rfl, .inl rfl⟩
  | link first junction others ih =>
      rcases List.mem_cons.1 h with rfl | hothers
      · exact ⟨link piece junction others, rfl, .inl rfl⟩
      · obtain ⟨rest, hhead, rfl | ⟨inner, before, rfl⟩⟩ := ih hothers
        · exact ⟨others, hhead, .inr ⟨junction, single first, rfl⟩⟩
        · exact ⟨rest, hhead, .inr ⟨inner, link first junction before, rfl⟩⟩

theorem mapHead_mapHead_const {chain : Chain α} {piece : α} {f : α → α}
    (h : chain.head = f piece) : (chain.mapHead fun _ => piece).mapHead f = chain := by
  cases chain with
  | single first => exact congrArg single h.symm
  | link first junction rest => exact congrArg (link · junction rest) h.symm

theorem mem_pieces_mapHead_const {chain : Chain α} {piece other : α}
    (h : other ∈ (chain.mapHead fun _ => piece).pieces) :
    other = piece ∨ other ∈ chain.pieces := by
  cases chain with
  | single first => exact .inl (List.mem_singleton.1 h)
  | link first junction rest => exact (List.mem_cons.1 h).imp_right (List.mem_cons_of_mem first)

end FilterText.Chain

end AnalyticsQuery
