import AnalyticsQuery.Proofs.Compile.Accounting
import AnalyticsQuery.Proofs.Filter.Pruned

/-!
# Parts without conditions

A part of a filter without conditions leaves no trace in the text, wherever it stands: the
text is that of the filter from which pruning has taken every such part.  What is left of
the text has a clause between each two separators and behind each exclamation mark.
-/

namespace AnalyticsQuery

open Fallible
open FilterText

namespace Filter

variable {clauses : Condition → List String}

/-- What remains of a pruned filter has the chain of the filter, as if the leaves that are
dropped had no clauses. -/
theorem prune_bind_chain (drop : Condition → Bool) (filter : Filter) :
    (filter.prune drop).bind (chain clauses) =
      filter.chain fun leaf => if drop leaf then [] else clauses leaf := by
  induction filter using treeInduction with
  | condition leaf => cases hdrop : drop leaf <;> simp [chain, hdrop, Chain.join]
  | junction operator children ih =>
      have hkept : (children.filterMap (prune drop)).filterMap (chain clauses) =
          children.filterMap (chain fun leaf => if drop leaf then [] else clauses leaf) := by
        rw [List.filterMap_filterMap]
        exact List.filterMap_congr ih
      rw [prune_junction, chain_junction, ← hkept]
      by_cases hnone : children.filterMap (prune drop) = []
      · rw [if_pos hnone, hnone]
        rfl
      · rw [if_neg hnone, Option.bind_some, chain_junction]
  | negation child ih =>
      rw [prune_negation, chain, ← ih]
      cases prune drop child <;> rfl

theorem leaves_of_prune_false {filter kept : Filter}
    (h : filter.prune (fun _ => false) = some kept) : kept.leaves = filter.leaves := by
  rw [leaves_of_prune h, Bool.not_false, List.filter_true]

end Filter

namespace Compiler

variable {compiler : Compiler} {filter : Filter} {query : Query}

theorem filterText_empty_iff {text : Option String} (h : compiler.filterText filter = .ok text) :
    text = none ∨ text = some "" ↔ filter.leaves = [] := by
  have hempty : text = none ∨ text = some "" ↔ text.filter (· ≠ "") = none := by
    cases text <;> simp
  rw [hempty, filter_filterText h, Option.map_eq_none_iff,
    Filter.chain_eq_none_iff_leaves (clausesOf_ne_nil_of_leaf h)]

/-- Taking away what has no conditions changes no text that says something. -/
theorem optionalFilterText_prune {text : Option String}
    (h : compiler.filterText filter = .ok text) :
    compiler.optionalFilterText (filter.prune fun _ => false) =
      .ok (text.filter (· ≠ "")) := by
  have hchain : (filter.prune fun _ => false).bind (Filter.chain compiler.clausesOf) =
      filter.chain compiler.clausesOf := filter.prune_bind_chain fun _ => false
  rw [filter_filterText h, ← hchain]
  cases hkept : filter.prune fun _ => false with
  | none => rfl
  | some kept =>
      have hleaves := Filter.leaves_of_prune_false hkept
      obtain ⟨written, hwritten⟩ := exists_filterText_iff.2 fun leaf hleaf =>
        exists_filterText_iff.1 ⟨text, h⟩ leaf (hleaves ▸ hleaf)
      have hsome : kept.chain compiler.clausesOf ≠ none := by
        rw [Ne, Filter.chain_eq_none_iff_leaves (clausesOf_ne_nil_of_leaf hwritten)]
        exact Filter.leaves_ne_nil_of_prune hkept
      obtain ⟨chain, hkeptChain⟩ := Option.ne_none_iff_exists'.1 hsome
      rw [Option.bind_some, hkeptChain, optionalFilterText, hwritten,
        filterText_eq_write hwritten hkeptChain]
      rfl

theorem exists_filterText_prune {written : String}
    (h : compiler.filterText filter = .ok (some written)) (hne : written ≠ "") :
    ∃ kept, filter.prune (fun _ => false) = some kept ∧
      compiler.filterText kept = .ok (some written) := by
  have hprune := optionalFilterText_prune h
  rw [Option.filter_some, if_pos (by simpa using hne)] at hprune
  cases hkept : filter.prune fun _ => false with
  | none =>
      rw [hkept] at hprune
      exact nomatch hprune
  | some kept =>
      rw [hkept] at hprune
      exact ⟨kept, rfl, hprune⟩

/-! ## What stands between separators -/

/-- A text without an empty piece, or one of exclamation marks only: it neither starts nor
ends with a separator, and no two stand side by side. -/
def WellSeparated (text : String) : Prop := ∀ piece ∈ (split text.toList).pieces, Marked piece

theorem wellSeparated_write {chain : Chain Piece}
    (h : filter.chain compiler.clausesOf = some chain) : WellSeparated chain.write := by
  intro piece hpiece
  rw [Chain.split_write, Chain.pieces_map] at hpiece
  obtain ⟨source, hsource, rfl⟩ := List.mem_map.1 hpiece
  obtain ⟨leaf, _, hleaf⟩ := Filter.exists_leaf_of_mem_pieces h hsource
  obtain ⟨char, hchar, hmark⟩ := marked_of_mem_clausesOf hleaf
  exact ⟨char, List.mem_append_right _ (mem_escapeChars hchar), hmark⟩

/-- A text that shows something, with a clause between each two separators. -/
structure IsLegible (text : String) : Prop where
  notBlank : Text.allBlank text = false
  separated : WellSeparated text

theorem isLegible_write {chain : Chain Piece}
    (h : filter.chain compiler.clausesOf = some chain) : IsLegible chain.write where
  notBlank := allBlank_write h
  separated := wellSeparated_write h

/-! ## The text that is sent -/

theorem filterParameters_eq_ok_iff {parameters : Parameters} :
    compiler.filterParameters query = .ok parameters ↔
      ∃ text, compiler.requestFilter query.filter = .ok text ∧
        Parameters.ofText? .filters text = parameters := by
  change (compiler.requestFilter query.filter >>= fun text =>
    pure (Parameters.ofText? .filters text)) = .ok parameters ↔ _
  simp only [bind_eq_ok_iff, pure, Except.pure, Except.ok.injEq]

theorem filterParameters_eq_nil_iff :
    compiler.filterParameters query = .ok [] ↔
      compiler.requestFilter query.filter = .ok none := by
  rw [filterParameters_eq_ok_iff]
  constructor
  · rintro ⟨text, htext, hempty⟩
    cases text with
    | none => exact htext
    | some text => exact nomatch hempty
  · intro hnone
    exact ⟨none, hnone, rfl⟩

theorem isLegible_of_requestFilter {text : String}
    (h : compiler.requestFilter query.filter = .ok (some text)) : IsLegible text := by
  obtain ⟨chain, hchain, rfl⟩ := Option.map_eq_some_iff.1 (requestFilter_eq_write h).symm
  obtain ⟨half, -, hhalf⟩ := Option.bind_eq_some_iff.1 hchain
  exact isLegible_write hhalf

theorem textHalf_eq_none_iff (query : Query) : query.filter.bind Filter.textHalf = none ↔
    ∀ leaf ∈ query.leaves, (leaf.onBucketedField || leaf.isBuiltinSegment) = true := by
  rw [Query.leaves]
  cases query.filter with
  | none => exact iff_of_true rfl fun leaf hleaf => absurd hleaf List.not_mem_nil
  | some filter => exact Filter.prune_eq_none_iff _ filter

theorem requestFilter_eq_none_iff :
    compiler.requestFilter query.filter = .ok none ↔
      ∀ leaf ∈ query.leaves, (leaf.onBucketedField || leaf.isBuiltinSegment) = true := by
  rw [← textHalf_eq_none_iff]
  constructor
  · intro h
    have hwrite := requestFilter_eq_write h
    have hclauses := exists_clauses_of_requestFilter h
    cases hhalf : query.filter.bind Filter.textHalf with
    | none => rfl
    | some half =>
        rw [hhalf] at hwrite hclauses
        have hnone : half.chain compiler.clausesOf = none := Option.map_eq_none_iff.1 hwrite.symm
        obtain ⟨filter, -, hprune⟩ := Option.bind_eq_some_iff.1 hhalf
        obtain ⟨text, htext⟩ := exists_filterText_iff.2 hclauses
        rw [Filter.chain_eq_none_iff_leaves (clausesOf_ne_nil_of_leaf htext)] at hnone
        exact absurd hnone (Filter.leaves_ne_nil_of_prune hprune)
  · intro hnone
    rw [requestFilter, hnone]
    rfl

/-- Parts without conditions vanish from the text as they do from the tree.  A filter says
nothing exactly if it has no conditions; otherwise its text is that of the filter from which
every empty part is taken, and has a clause between each two separators.  A request has no
text exactly if no condition is left for it. -/
theorem filterText_of_emptied (compiler : Compiler) :
    (∀ filter text, compiler.filterText filter = .ok text →
      ((text = none ∨ text = some "") ↔ filter.leaves = []) ∧
      ∀ written, text = some written → written ≠ "" →
        IsLegible written ∧ ∃ kept, filter.prune (fun _ => false) = some kept ∧
          kept.leaves = filter.leaves ∧ (∀ part ∈ kept.subfilters, part.leaves ≠ []) ∧
            compiler.filterText kept = .ok (some written)) ∧
    ∀ query,
      (compiler.filterParameters query = .ok [] ↔
        ∀ leaf ∈ query.leaves, (leaf.onBucketedField || leaf.isBuiltinSegment) = true) ∧
      ∀ parameters, compiler.filterParameters query = .ok parameters → parameters ≠ [] →
        ∃ text, parameters = [(.filters, .text text)] ∧ IsLegible text := by
  refine ⟨fun filter text htext => ⟨filterText_empty_iff htext, ?_⟩, fun query => ⟨?_, ?_⟩⟩
  · rintro written rfl hne
    obtain ⟨kept, hkept, hwritten⟩ := exists_filterText_prune htext hne
    have hleaves := Filter.leaves_of_prune_false hkept
    have hparts := (Filter.remains_prune (fun _ => false) filter).parts kept hkept
    obtain ⟨chain, hchain, rfl⟩ := exists_chain_of_filterText htext hne
    exact ⟨isLegible_write hchain, kept, hkept, hleaves, hparts, hwritten⟩
  · exact filterParameters_eq_nil_iff.trans requestFilter_eq_none_iff
  · intro parameters hparameters hne
    obtain ⟨text, htext, rfl⟩ := filterParameters_eq_ok_iff.1 hparameters
    cases text with
    | none => exact absurd rfl hne
    | some text => exact ⟨text, rfl, isLegible_of_requestFilter htext⟩

/-- Empty junctions, bare or negated, in front of the conditions, between them and behind. -/
theorem filterText_of_emptied_everywhere :
    let chile : Filter := .condition (.comparison .equal (.plain (.literal "ga:country"))
      (.literal (.text "Chile") none))
    let filter : Filter := .junction .and [.negation (.junction .or []),
      .junction .or [.junction .and [], chile], .negation (.junction .and [.negation
        (.junction .or [])]), .negation (.junction .and [.junction .or [], chile]),
      .junction .or []]
    let text := "ga:country==Chile;!ga:country==Chile"
    bare.filterText filter = .ok (some text) ∧ IsLegible text ∧
      ∃ kept, filter.prune (fun _ => false) = some kept ∧ kept.leaves = filter.leaves ∧
        bare.filterText kept = .ok (some text) := by
  intro chile filter text
  have htext : bare.filterText filter = .ok (some text) := by decide +kernel
  obtain ⟨-, hwritten⟩ := (filterText_of_emptied bare).1 filter (some text) htext
  obtain ⟨hlegible, kept, hkept, hleaves, -, hkeptText⟩ := hwritten text rfl (by decide)
  exact ⟨htext, hlegible, kept, hkept, hleaves, hkeptText⟩

end Compiler

end AnalyticsQuery
