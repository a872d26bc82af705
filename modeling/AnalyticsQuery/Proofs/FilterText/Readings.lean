import AnalyticsQuery.Proofs.Filter.Meaning
import AnalyticsQuery.Proofs.FilterText.Clauses

/-!
# Readings of filter text

Filter text has no parentheses, and an exclamation mark in front of a clause may as well
belong to the name of a field.  Which texts have one meaning all the same can be read off
their pieces: no piece looks negated, and each run of clauses joined by `;` shares a
clause with each run joined by `,`.  Every other text is also that of a filter with
another meaning.
-/

namespace AnalyticsQuery

open Fallible
open FilterText

/-! ## Between two readings -/

namespace Filter

variable {clauses : Condition → List String} {truth : String → Bool}

/-- A filter without empty junctions, all of whose conditions have clauses, has a chain. -/
theorem exists_chain {filter : Filter} (hfilter : filter.NoEmptyJunction)
    (hclauses : ∀ leaf ∈ filter.leaves, clauses leaf ≠ []) :
    ∃ chain, filter.chain clauses = some chain := by
  induction filter using treeInduction with
  | condition leaf =>
      obtain ⟨clause, others, hleaf⟩ :=
        List.exists_cons_of_ne_nil (hclauses leaf (List.mem_singleton_self leaf))
      rw [chain, hleaf, ← Option.ne_none_iff_exists', Ne, Chain.join_eq_none_iff]
      exact List.cons_ne_nil _ _
  | junction operator children ih =>
      obtain ⟨hne, hchildren⟩ := noEmptyJunction_junction.1 hfilter
      obtain ⟨first, others, rfl⟩ := List.exists_cons_of_ne_nil hne
      obtain ⟨firstChain, hfirst⟩ := ih first List.mem_cons_self
        (hchildren first List.mem_cons_self) fun leaf hleaf =>
          hclauses leaf (mem_leaves_junction List.mem_cons_self hleaf)
      rw [chain_junction, List.filterMap_cons, hfirst, ← Option.ne_none_iff_exists', Ne,
        Chain.join_eq_none_iff]
      exact List.cons_ne_nil _ _
  | negation child ih =>
      obtain ⟨inner, hinner⟩ := ih (noEmptyJunction_negation.1 hfilter) hclauses
      exact ⟨inner.mapHead Piece.negate, by rw [chain, hinner]; rfl⟩

/-- A junction has the value that covers the chain of its parts, if each part has the
value that covers its own. -/
theorem combine_of_covered {α : Type} {operator separator : Junction} {items : List α}
    (chainOf : α → Option (Chain Piece)) {value : α → Bool} {property : Piece → Prop}
    {chain : Chain Piece} (hjoin : Chain.join operator (items.filterMap chainOf) = some chain)
    (hcovered : chain.Covered separator property False)
    (hchains : ∀ item ∈ items, ∃ part, chainOf item = some part)
    (hitems : ∀ item ∈ items, ∀ part, chainOf item = some part →
      part.Covered separator property False → value item = separator.truth) :
    operator.combine (items.map value) = separator.truth := by
  by_cases hsame : operator = separator
  · rw [hsame] at hjoin ⊢
    rw [Junction.combine_eq_truth_iff]
    intro _ hvalue
    obtain ⟨item, hitem, rfl⟩ := List.mem_map.1 hvalue
    obtain ⟨part, hpart⟩ := hchains item hitem
    have hmem := List.mem_filterMap.2 ⟨item, hitem, hpart⟩
    exact hitems item hitem part hpart (hcovered.of_join_self hjoin part hmem)
  · rw [Junction.combine_eq_truth_of_ne hsame]
    obtain ⟨part, hmem, hpart⟩ := hcovered.of_join hsame hjoin
    obtain ⟨item, hitem, hchain⟩ := List.mem_filterMap.1 hmem
    exact ⟨value item, List.mem_map_of_mem hitem, hitems item hitem part hchain hpart⟩

/-- The clauses of a condition are joined as a conjunction is. -/
theorem all_of_covered {separator : Junction} {leaf : Condition} {chain : Chain Piece}
    (hchain : (condition leaf).chain clauses = some chain)
    (hcovered : chain.Covered separator
      (fun piece => truth (String.ofList piece.text) = separator.truth) False) :
    (clauses leaf).all (fun clause => truth (escapeClause clause)) = separator.truth := by
  have hvalue : (clauses leaf).all (fun clause => truth (escapeClause clause)) =
      Junction.and.combine ((clauses leaf).map fun clause => truth (escapeClause clause)) := by
    rw [Junction.combine, List.all_map]
    rfl
  rw [hvalue]
  apply combine_of_covered fun clause => some (.single (.plain clause))
  · rw [← hchain, Filter.chain, List.filterMap_eq_map']
  · exact hcovered
  · intro clause _
    exact ⟨_, rfl⟩
  · intro clause _ part hpart hclause
    rw [← Option.some.inj hpart] at hclause
    exact hclause.resolve_left not_false

/-- Without negations, a filter holds if each group of clauses joined by `,` has one that
holds, and fails if each group joined by `;` has one that fails. -/
theorem holds_of_covered {separator : Junction} {filter : Filter} {chain : Chain Piece}
    (hfilter : filter.NoEmptyJunction) (hclauses : ∀ leaf ∈ filter.leaves, clauses leaf ≠ [])
    (hchain : filter.chain clauses = some chain)
    (hplain : ∀ piece ∈ chain.pieces, piece.negations = 0)
    (hcovered : chain.Covered separator
      (fun piece => truth (String.ofList piece.text) = separator.truth) False) :
    filter.holds (fun leaf => (clauses leaf).all fun clause => truth (escapeClause clause)) =
      separator.truth := by
  induction filter using treeInduction generalizing chain with
  | condition leaf => exact all_of_covered hchain hcovered
  | junction operator children ih =>
      rw [holds_junction]
      have hjoin := hchain
      rw [chain_junction] at hjoin
      have hpieces := Chain.piecesIn_join operator (children.filterMap (Filter.chain clauses))
      rw [hjoin] at hpieces
      have hbelow : ∀ child ∈ children, ∀ leaf ∈ child.leaves, clauses leaf ≠ [] := by
        intro child hchild leaf hleaf
        exact hclauses leaf (mem_leaves_junction hchild hleaf)
      obtain ⟨_, hchildren⟩ := noEmptyJunction_junction.1 hfilter
      apply combine_of_covered (Filter.chain clauses) hjoin hcovered
      · intro child hchild
        exact exists_chain (hchildren child hchild) (hbelow child hchild)
      · intro child hchild part hpart hcovers
        apply ih child hchild (hchildren child hchild) (hbelow child hchild) hpart _ hcovers
        intro piece hpiece
        apply hplain
        change piece ∈ Chain.piecesIn (some chain)
        rw [hpieces]
        exact List.mem_flatMap_of_mem (List.mem_filterMap.2 ⟨child, hchild, hpart⟩) hpiece
  | negation child ih =>
      rw [Filter.chain] at hchain
      obtain ⟨inner, _, rfl⟩ := Option.map_eq_some_iff.1 hchain
      cases inner with
      | single piece =>
          exact absurd (hplain piece.negate List.mem_cons_self) (Nat.succ_ne_zero _)
      | link piece junction rest =>
          exact absurd (hplain piece.negate List.mem_cons_self) (Nat.succ_ne_zero _)

/-! ## Filters of a reading -/

/-- The reading of a chain of conditions that joins by one junction what the other has
joined first. -/
def grouped (separator : Junction) (leaves : Chain Condition) : Filter :=
  junction separator ((leaves.groups separator).map fun group =>
    junction separator.other (group.map condition))

theorem noEmptyJunction_grouped (separator : Junction) (leaves : Chain Condition) :
    (grouped separator leaves).NoEmptyJunction := by
  rw [grouped, noEmptyJunction_junction]
  refine ⟨?_, ?_⟩
  · rw [Ne, List.map_eq_nil_iff]
    exact Chain.groups_ne_nil separator leaves
  · intro child hchild
    obtain ⟨group, hgroup, rfl⟩ := List.mem_map.1 hchild
    rw [noEmptyJunction_junction]
    refine ⟨?_, ?_⟩
    · rw [Ne, List.map_eq_nil_iff]
      exact Chain.ne_nil_of_mem_groups hgroup
    · intro leaf hleaf
      obtain ⟨condition, _, rfl⟩ := List.mem_map.1 hleaf
      exact noEmptyJunction_condition condition

theorem leaves_grouped (separator : Junction) (leaves : Chain Condition) :
    (grouped separator leaves).leaves = leaves.pieces := by
  have hgroup : ∀ group : List Condition,
      (junction separator.other (group.map condition)).leaves = group := by
    intro group
    rw [leaves_junction, List.flatMap_map]
    exact List.flatMap_singleton' group
  calc
    (grouped separator leaves).leaves = (leaves.groups separator).flatMap id := by
      rw [grouped, leaves_junction, List.flatMap_map]
      exact List.flatMap_congr fun group _ => hgroup group
    _ = (leaves.groups separator).flatten := List.flatMap_id
    _ = leaves.pieces := Chain.flatten_groups separator leaves

/-- The two readings of a chain have that chain, if each condition has one clause. -/
theorem chain_grouped {separator : Junction} {leaves : Chain Condition}
    (clause : Condition → String) (h : ∀ leaf ∈ leaves.pieces, clauses leaf = [clause leaf]) :
    (grouped separator leaves).chain clauses =
      some (leaves.map fun leaf => Piece.plain (clause leaf)) := by
  rw [← Chain.join_groups separator, Chain.groups_map, List.filterMap_map, grouped,
    chain_junction, List.filterMap_map]
  congr 1
  apply List.filterMap_congr
  intro group hgroup
  rw [Function.comp_apply, Function.comp_apply, chain_junction, List.filterMap_map, List.map_map,
    ← List.filterMap_eq_map']
  congr 1
  apply List.filterMap_congr
  intro leaf hleaf
  have hmem := Chain.mem_pieces_of_mem_groups hgroup hleaf
  rw [Function.comp_apply, Filter.chain, h leaf hmem]
  rfl

/-- A reading holds, or fails, exactly if its groups are covered. -/
theorem holds_grouped {separator : Junction} {leaves : Chain Condition}
    {value : Condition → Bool} :
    (grouped separator leaves).holds value = separator.truth ↔
      ∀ group ∈ leaves.groups separator, ∃ leaf ∈ group, value leaf = separator.truth := by
  have hgroup : ∀ group : List Condition,
      (junction separator.other (group.map condition)).holds value = separator.truth ↔
        ∃ leaf ∈ group, value leaf = separator.truth := by
    intro group
    rw [holds_junction, Junction.combine_eq_truth_of_ne separator.other_ne, List.map_map]
    simp only [List.mem_map, exists_exists_and_eq_and, Function.comp_apply, holds_condition]
  rw [grouped, holds_junction, Junction.combine_eq_truth_iff, List.map_map, List.forall_mem_map]
  exact forall₂_congr fun group _ => hgroup group

end Filter

/-! ## Clauses and their texts -/

namespace Compiler

variable {compiler : Compiler}

/-- Whether a filter holds, if the compiled texts of its clauses have the given values. -/
def holds (compiler : Compiler) (truth : String → Bool) (filter : Filter) : Bool :=
  filter.holds fun leaf => (compiler.clausesOf leaf).all fun clause => truth (escapeClause clause)

/-- A text to which some condition compiles. -/
def IsClauseText (compiler : Compiler) (text : List Char) : Prop :=
  ∃ leaf clause, compiler.clauseTexts leaf = .ok [clause] ∧
    text = escapeChars clauseCharacters clause.toList

/-- Each clause of a condition is also that of a condition of its own. -/
theorem isClauseText_of_mem {leaf : Condition} {clause : String}
    (h : clause ∈ compiler.clausesOf leaf) :
    compiler.IsClauseText (escapeChars clauseCharacters clause.toList) := by
  unfold clausesOf at h
  split at h
  · rename_i clauses hclauses
    have hshape := clauseTexts_eq_ok_iff.1 hclauses
    cases leaf with
    | comparison operator field value =>
        obtain ⟨_, _, _, _, rfl⟩ := hshape
        rw [List.mem_singleton.1 h]
        exact ⟨_, _, hclauses, rfl⟩
    | between field lower upper =>
        obtain ⟨name, lowerText, upperText, hname, hlower, hupper, rfl⟩ := hshape
        rcases List.mem_pair.1 h with rfl | rfl
        · exact ⟨.comparison .atLeast field lower, _,
            clauseTexts_eq_ok_iff.2 ⟨name, lowerText, hname, hlower, rfl⟩, rfl⟩
        · exact ⟨.comparison .atMost field upper, _,
            clauseTexts_eq_ok_iff.2 ⟨name, upperText, hname, hupper, rfl⟩, rfl⟩
    | textMatch operator field value caseSensitive =>
        obtain ⟨_, _, _, _, rfl⟩ := hshape
        rw [List.mem_singleton.1 h]
        exact ⟨_, _, hclauses, rfl⟩
    | segment id => exact hshape.elim
  · exact absurd h List.not_mem_nil

/-- An exclamation mark may belong to the name of a field. -/
theorem IsClauseText.cons_mark {text : List Char} (h : compiler.IsClauseText text) :
    compiler.IsClauseText ('!' :: text) := by
  obtain ⟨leaf, clause, hclause, rfl⟩ := h
  suffices hmarked : ∃ marked, compiler.clauseTexts marked = .ok ["!" ++ clause] by
    obtain ⟨marked, hmarked⟩ := hmarked
    refine ⟨marked, "!" ++ clause, hmarked, ?_⟩
    rw [String.toList_append]
    rfl
  have hshape := clauseTexts_eq_ok_iff.1 hclause
  cases leaf with
  | comparison operator field value =>
      obtain ⟨name, text, _, htext, hclause⟩ := hshape
      refine ⟨.comparison operator (.plain (.literal ("!" ++ name))) value, ?_⟩
      refine clauseTexts_eq_ok_iff.2 ⟨"!" ++ name, text, rfl, htext, ?_⟩
      rw [List.head_eq_of_cons_eq hclause]
      simp only [String.append_assoc]
  | between field lower upper =>
      obtain ⟨_, _, _, _, _, _, hclause⟩ := hshape
      exact nomatch hclause
  | textMatch operator field value caseSensitive =>
      obtain ⟨name, text, _, htext, hclause⟩ := hshape
      refine ⟨.textMatch operator (.plain (.literal ("!" ++ name))) value caseSensitive, ?_⟩
      refine clauseTexts_eq_ok_iff.2 ⟨"!" ++ name, text, rfl, htext, ?_⟩
      rw [List.head_eq_of_cons_eq hclause]
      simp only [String.append_assoc]
  | segment id => exact hshape.elim

theorem IsClauseText.marks_append {text : List Char} (h : compiler.IsClauseText text)
    (count : Nat) : compiler.IsClauseText (List.replicate count '!' ++ text) := by
  induction count with
  | zero => exact h
  | succ count ih =>
      rw [List.replicate_succ]
      exact ih.cons_mark

/-- Each piece of a filter is a clause text, and remains one with marks in front of it. -/
theorem isClauseText_of_mem_pieces {filter : Filter} {chain : Chain Piece} {piece : Piece}
    (hchain : filter.chain compiler.clausesOf = some chain) (hpiece : piece ∈ chain.pieces)
    (count : Nat) :
    compiler.IsClauseText (List.replicate count '!' ++
      escapeChars clauseCharacters piece.clause.toList) := by
  obtain ⟨leaf, _, hleaf⟩ := Filter.exists_leaf_of_mem_pieces hchain hpiece
  exact (isClauseText_of_mem hleaf).marks_append count

/-! ## Filters with the text of a chain -/

/-- A filter without empty junctions that is written as the text of a chain. -/
structure WrittenAs (compiler : Compiler) (filter : Filter) (chain : Chain (List Char)) :
    Prop where
  noEmptyJunction : filter.NoEmptyJunction
  clauses : ∀ leaf ∈ filter.leaves, ∃ clauses, compiler.clauseTexts leaf = .ok clauses
  pieces : ∃ pieces, filter.chain compiler.clausesOf = some pieces ∧ pieces.map Piece.text = chain

theorem writtenAs_split {filter : Filter} {text : String} (hfilter : filter.NoEmptyJunction)
    (htext : compiler.filterText filter = .ok (some text)) :
    compiler.WrittenAs filter (split text.toList) := by
  obtain ⟨chain, hchain⟩ := Filter.exists_chain hfilter (clausesOf_ne_nil_of_leaf htext)
  refine ⟨hfilter, exists_filterText_iff.1 ⟨_, htext⟩, chain, hchain, ?_⟩
  have hwrite := Option.some.inj (filterText_eq_write htext hchain)
  rw [hwrite, Chain.split_write]

namespace WrittenAs

variable {filter left right : Filter} {chain leftChain rightChain : Chain (List Char)}

theorem filterText {text : String} (h : compiler.WrittenAs filter (split text.toList)) :
    compiler.filterText filter = .ok (some text) := by
  obtain ⟨written, hwritten⟩ := exists_filterText_iff.2 h.clauses
  obtain ⟨pieces, hpieces, hsplit⟩ := h.pieces
  have hwrite : pieces.write = text := by
    rw [Chain.write, hsplit, text_split, String.ofList_toList]
  rw [hwritten, filterText_eq_write hwritten hpieces, hwrite]

theorem negation (h : compiler.WrittenAs filter chain) :
    compiler.WrittenAs (.negation filter) (chain.mapHead ('!' :: ·)) := by
  obtain ⟨pieces, hpieces, htexts⟩ := h.pieces
  refine ⟨Filter.noEmptyJunction_negation.2 h.noEmptyJunction, h.clauses,
    pieces.mapHead Piece.negate, ?_, ?_⟩
  · rw [Filter.chain, hpieces, Option.map_some]
  · rw [Chain.map_mapHead Piece.text_negate, htexts]

theorem junction (operator : Junction) (hleft : compiler.WrittenAs left leftChain)
    (hright : compiler.WrittenAs right rightChain) :
    compiler.WrittenAs (.junction operator [left, right])
      (leftChain.append operator rightChain) := by
  obtain ⟨leftPieces, hleftPieces, hleftTexts⟩ := hleft.pieces
  obtain ⟨rightPieces, hrightPieces, hrightTexts⟩ := hright.pieces
  refine ⟨?_, ?_, leftPieces.append operator rightPieces, ?_, ?_⟩
  · rw [Filter.noEmptyJunction_junction, List.forall_mem_cons, List.forall_mem_singleton]
    exact ⟨List.cons_ne_nil _ _, hleft.noEmptyJunction, hright.noEmptyJunction⟩
  · intro leaf hleaf
    rw [Filter.leaves_junction, List.flatMap_cons, List.flatMap_singleton, List.mem_append] at hleaf
    exact hleaf.elim (hleft.clauses leaf) (hright.clauses leaf)
  · rw [Filter.chain_junction, List.filterMap_cons, hleftPieces, List.filterMap_cons, hrightPieces]
    rfl
  · rw [Chain.map_append, hleftTexts, hrightTexts]

end WrittenAs

/-! ## Chains of conditions with one clause -/

/-- The text of a condition with one clause. -/
def leafText (compiler : Compiler) (leaf : Condition) : List Char :=
  escapeChars clauseCharacters ((compiler.clausesOf leaf).headD "").toList

def SingleClauses (compiler : Compiler) (leaves : Chain Condition) : Prop :=
  ∀ leaf ∈ leaves.pieces, ∃ clause, compiler.clauseTexts leaf = .ok [clause]

theorem exists_singleClauses {chain : Chain (List Char)}
    (h : ∀ piece ∈ chain.pieces, compiler.IsClauseText piece) :
    ∃ leaves, compiler.SingleClauses leaves ∧ leaves.map compiler.leafText = chain := by
  induction chain with
  | single piece =>
      obtain ⟨leaf, clause, hclause, rfl⟩ := h piece List.mem_cons_self
      refine ⟨.single leaf, ?_, ?_⟩
      · intro other hother
        rw [List.mem_singleton.1 hother]
        exact ⟨clause, hclause⟩
      · rw [Chain.map, leafText, clausesOf_eq hclause]
        rfl
  | link piece junction rest ih =>
      obtain ⟨leaf, clause, hclause, rfl⟩ := h piece List.mem_cons_self
      obtain ⟨leaves, hleaves, rfl⟩ := ih fun other hother => h other (List.mem_cons_of_mem _ hother)
      refine ⟨.link leaf junction leaves, ?_, ?_⟩
      · intro other hother
        rcases List.mem_cons.1 hother with rfl | hrest
        · exact ⟨clause, hclause⟩
        · exact hleaves other hrest
      · rw [Chain.map, leafText, clausesOf_eq hclause]
        rfl

section Grouped

variable {leaves : Chain Condition} (separator : Junction)

/-- Both readings of a chain of conditions are written as their texts. -/
theorem writtenAs_grouped (hleaves : compiler.SingleClauses leaves) :
    compiler.WrittenAs (.grouped separator leaves) (leaves.map compiler.leafText) := by
  have hclauses : ∀ leaf ∈ leaves.pieces,
      compiler.clausesOf leaf = [(compiler.clausesOf leaf).headD ""] := by
    intro leaf hleaf
    obtain ⟨clause, hclause⟩ := hleaves leaf hleaf
    rw [clausesOf_eq hclause]
    rfl
  refine ⟨Filter.noEmptyJunction_grouped separator leaves, ?_, _,
    Filter.chain_grouped _ hclauses, ?_⟩
  · intro leaf hleaf
    rw [Filter.leaves_grouped] at hleaf
    obtain ⟨clause, hclause⟩ := hleaves leaf hleaf
    exact ⟨[clause], hclause⟩
  · rw [Chain.map_map]
    rfl

theorem holds_grouped (hleaves : compiler.SingleClauses leaves) (truth : String → Bool) :
    compiler.holds truth (Filter.grouped separator leaves) = separator.truth ↔
      ∀ group ∈ (leaves.map compiler.leafText).groups separator,
        ∃ piece ∈ group, truth (String.ofList piece) = separator.truth := by
  rw [holds, Filter.holds_grouped, Chain.groups_map, List.forall_mem_map]
  apply forall₂_congr
  intro group hgroup
  simp only [List.mem_map, exists_exists_and_eq_and]
  apply exists_congr
  intro leaf
  apply and_congr_right
  intro hleaf
  have hmem := Chain.mem_pieces_of_mem_groups hgroup hleaf
  obtain ⟨clause, hclause⟩ := hleaves leaf hmem
  rw [leafText, clausesOf_eq hclause, List.all_cons, List.all_nil, Bool.and_true]
  rfl

/-- If all texts have the same value, so has a reading. -/
theorem holds_grouped_const (hleaves : compiler.SingleClauses leaves) (value : Bool) :
    compiler.holds (fun _ => value) (Filter.grouped separator leaves) = value := by
  have hgroups := holds_grouped separator hleaves fun _ => value
  obtain ⟨first, others, hcons⟩ :=
    Chain.exists_groups_eq_cons separator (leaves.map compiler.leafText)
  by_cases hvalue : value = separator.truth
  · rw [hvalue] at hgroups ⊢
    rw [hgroups]
    intro group hgroup
    obtain ⟨piece, hpiece⟩ := List.exists_mem_of_ne_nil group (Chain.ne_nil_of_mem_groups hgroup)
    exact ⟨piece, hpiece, rfl⟩
  · have hne : compiler.holds (fun _ => value) (Filter.grouped separator leaves) ≠
        separator.truth := by
      rw [Ne, hgroups, hcons]
      intro hall
      obtain ⟨_, _, hfirst⟩ := hall first List.mem_cons_self
      exact hvalue hfirst
    exact (Bool.eq_not.2 hne).trans (Bool.eq_not.2 hvalue).symm

end Grouped

end Compiler

end AnalyticsQuery
