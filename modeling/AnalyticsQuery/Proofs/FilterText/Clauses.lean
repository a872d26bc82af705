import AnalyticsQuery.Proofs.Fallible
import AnalyticsQuery.Proofs.Filter.Address
import AnalyticsQuery.Proofs.FilterText.Splitting

/-!
# The chain of a filter

The text of a filter is the text of a chain with one piece for each clause.  A piece
counts the negations written in front of it, and the chain is found from the tree
without looking at any text.
-/

namespace AnalyticsQuery

open Fallible
open FilterText

namespace FilterText

/-- A clause with the number of negations in front of it. -/
structure Piece where
  negations : Nat
  clause : String
  deriving DecidableEq

namespace Piece

def plain (clause : String) : Piece := ⟨0, clause⟩

def negate (piece : Piece) : Piece := { piece with negations := piece.negations + 1 }

def text (piece : Piece) : List Char :=
  List.replicate piece.negations '!' ++ escapeChars clauseCharacters piece.clause.toList

theorem text_negate (piece : Piece) : piece.negate.text = '!' :: piece.text := by
  rw [text, negate, List.replicate_succ, List.cons_append]
  rfl

theorem closed_text (piece : Piece) : Closed piece.text :=
  Closed.append (closed_negations _) (closed_escapeChars _)

end Piece

/-- The text of a chain of pieces. -/
def Chain.write (chain : Chain Piece) : String := String.ofList (chain.map Piece.text).text

theorem Chain.split_write (chain : Chain Piece) :
    split chain.write.toList = chain.map Piece.text := by
  rw [write, String.toList_ofList]
  apply split_text
  intro piece hpiece
  rw [pieces_map, List.mem_map] at hpiece
  obtain ⟨source, _, rfl⟩ := hpiece
  exact source.closed_text

theorem Chain.write_mapHead_negate (chain : Chain Piece) :
    (chain.mapHead Piece.negate).write = "!" ++ chain.write := by
  apply String.toList_injective
  rw [write, map_mapHead (h := ('!' :: ·)) Piece.text_negate, text_mapHead, write,
    String.toList_append]
  simp only [String.toList_ofList]
  rfl

end FilterText

/-! ## From the tree to the chain -/

namespace Filter

variable (clauses : Condition → List String)

mutual

/-- The clauses of all leaves, joined and negated as the tree says.  Parts without
leaves leave no trace. -/
def chain : Filter → Option (Chain Piece)
  | condition leaf => Chain.join .and ((clauses leaf).map fun clause => .single (.plain clause))
  | junction operator children => Chain.join operator (chainsOf children)
  | negation child => (chain child).map (Chain.mapHead Piece.negate)

def chainsOf : List Filter → List (Chain Piece)
  | [] => []
  | child :: children => (chain child).toList ++ chainsOf children

end

variable {clauses}

theorem chainsOf_eq_filterMap (children : List Filter) :
    chainsOf clauses children = children.filterMap (chain clauses) := by
  induction children with
  | nil => rfl
  | cons child children ih =>
      rw [chainsOf, List.filterMap_cons, ih]
      cases chain clauses child <;> rfl

theorem chain_junction (operator : Junction) (children : List Filter) :
    chain clauses (junction operator children) =
      Chain.join operator (children.filterMap (chain clauses)) := by
  rw [chain, chainsOf_eq_filterMap]

theorem clauses_negate (chain : Option (Chain Piece)) :
    (Chain.piecesIn (chain.map (Chain.mapHead Piece.negate))).map Piece.clause =
      (Chain.piecesIn chain).map Piece.clause := by
  cases chain with
  | none => rfl
  | some chain => cases chain <;> rfl

/-- The chain of a filter has the clauses of its leaves, in their order. -/
theorem clauses_chain (clauses : Condition → List String) (filter : Filter) :
    (Chain.piecesIn (filter.chain clauses)).map Piece.clause =
      filter.leaves.flatMap clauses := by
  induction filter using treeInduction with
  | condition leaf =>
      rw [chain, Chain.piecesIn_join, List.flatMap_map, List.map_flatMap, leaves_condition,
        List.flatMap_singleton]
      exact List.flatMap_singleton' _
  | junction operator children ih =>
      calc
        (Chain.piecesIn ((junction operator children).chain clauses)).map Piece.clause =
            children.flatMap fun child =>
              (Chain.piecesIn (child.chain clauses)).map Piece.clause := by
          rw [chain_junction, Chain.piecesIn_join, flatMap_filterMap, List.map_flatMap]
          rfl
        _ = children.flatMap fun child => child.leaves.flatMap clauses := List.flatMap_congr ih
        _ = (junction operator children).leaves.flatMap clauses := by
          rw [leaves_junction, List.flatMap_assoc]
  | negation child ih => rw [chain, clauses_negate, ih, leaves_negation]

/-- A filter whose leaves have clauses has a chain unless it has no leaf. -/
theorem chain_eq_none_iff_leaves {filter : Filter}
    (hclauses : ∀ leaf ∈ filter.leaves, clauses leaf ≠ []) :
    filter.chain clauses = none ↔ filter.leaves = [] := by
  have hchain : filter.chain clauses = none ↔ filter.leaves.flatMap clauses = [] := by
    rw [← clauses_chain, List.map_eq_nil_iff]
    cases filter.chain clauses with
    | none => exact iff_of_true rfl rfl
    | some chain => exact iff_of_false (Option.some_ne_none _) chain.pieces_ne_nil
  rw [hchain, List.flatMap_eq_nil_iff, List.eq_nil_iff_forall_not_mem]
  exact forall₂_congr fun leaf hleaf => iff_false_intro (hclauses leaf hleaf)

/-- Every piece is written from a clause of a leaf. -/
theorem exists_leaf_of_mem_pieces {filter : Filter} {chain : Chain Piece} {piece : Piece}
    (hchain : filter.chain clauses = some chain) (hpiece : piece ∈ chain.pieces) :
    ∃ leaf ∈ filter.leaves, piece.clause ∈ clauses leaf := by
  have hclauses := clauses_chain clauses filter
  rw [hchain] at hclauses
  rw [← List.mem_flatMap, ← hclauses]
  exact List.mem_map_of_mem hpiece

end Filter

/-! ## From the chain to the text -/

namespace Compiler

variable {compiler : Compiler}

/-- The clauses of a condition, or none if they cannot be written. -/
def clausesOf (compiler : Compiler) (leaf : Condition) : List String :=
  match compiler.clauseTexts leaf with
  | .ok clauses => clauses
  | .error _ => []

theorem clausesOf_eq {leaf : Condition} {clauses : List String}
    (h : compiler.clauseTexts leaf = .ok clauses) : compiler.clausesOf leaf = clauses := by
  rw [clausesOf, h]

/-- A text with a character that is not blank. -/
def Visible (text : String) : Prop := ∃ char ∈ text.toList, Text.isSpace char = false

/-- A text with a character that is neither blank nor an exclamation mark. -/
def Marked (text : List Char) : Prop := ∃ char ∈ text, char ≠ '!' ∧ Text.isSpace char = false

theorem Marked.visible {text : String} (h : Marked text.toList) : Visible text := by
  obtain ⟨char, hchar, -, hvisible⟩ := h
  exact ⟨char, hchar, hvisible⟩

theorem Marked.append_between {operator : String} (h : Marked operator.toList)
    (name text : String) : Marked (name ++ operator ++ text).toList := by
  obtain ⟨char, hchar, hmark⟩ := h
  refine ⟨char, ?_, hmark⟩
  rw [String.toList_append, String.toList_append]
  exact List.mem_append_left _ (List.mem_append_right _ hchar)

theorem marked_filterOperator (operator : Comparison) :
    Marked operator.filterOperator.toList := by
  cases operator with
  | equal => exact ⟨'=', by decide, by decide⟩
  | notEqual => exact ⟨'=', by decide, by decide⟩
  | less => exact ⟨'<', by decide, by decide⟩
  | atMost => exact ⟨'<', by decide, by decide⟩
  | greater => exact ⟨'>', by decide, by decide⟩
  | atLeast => exact ⟨'>', by decide, by decide⟩

/-- What the clauses of a condition are made of. -/
theorem clauseTexts_eq_ok_iff {leaf : Condition} {clauses : List String} :
    compiler.clauseTexts leaf = .ok clauses ↔
      match leaf with
      | .comparison operator field value => ∃ name text,
          compiler.fieldName field = .ok name ∧ compiler.operandText value = .ok text ∧
            clauses = [name ++ operator.filterOperator ++ text]
      | .between field lower upper => ∃ name lowerText upperText,
          compiler.fieldName field = .ok name ∧ compiler.operandText lower = .ok lowerText ∧
            compiler.operandText upper = .ok upperText ∧
              clauses = [name ++ ">=" ++ lowerText, name ++ "<=" ++ upperText]
      | .textMatch operator field value caseSensitive => ∃ name text,
          compiler.fieldName field = .ok name ∧ compiler.operandText value = .ok text ∧
            clauses = [name ++ "=~" ++ caseFlag caseSensitive ++
              operator.anchor (escapeRegex text)]
      | .segment _ => False := by
  cases leaf with
  | comparison operator field value =>
      simp only [clauseTexts, bind_eq_ok_iff, pure, Except.pure, Except.ok.injEq]
      constructor
      · rintro ⟨name, hname, text, htext, rfl⟩
        exact ⟨name, text, hname, htext, rfl⟩
      · rintro ⟨name, text, hname, htext, rfl⟩
        exact ⟨name, hname, text, htext, rfl⟩
  | between field lower upper =>
      simp only [clauseTexts, bind_eq_ok_iff, pure, Except.pure, Except.ok.injEq]
      constructor
      · rintro ⟨name, hname, lowerText, hlower, upperText, hupper, rfl⟩
        exact ⟨name, lowerText, upperText, hname, hlower, hupper, rfl⟩
      · rintro ⟨name, lowerText, upperText, hname, hlower, hupper, rfl⟩
        exact ⟨name, hname, lowerText, hlower, upperText, hupper, rfl⟩
  | textMatch operator field value caseSensitive =>
      simp only [clauseTexts, bind_eq_ok_iff, pure, Except.pure, Except.ok.injEq]
      constructor
      · rintro ⟨text, htext, name, hname, rfl⟩
        exact ⟨name, text, hname, htext, rfl⟩
      · rintro ⟨name, text, hname, htext, rfl⟩
        exact ⟨text, htext, name, hname, rfl⟩
  | segment id => simp [clauseTexts]

theorem length_of_clauseTexts {leaf : Condition} {clauses : List String}
    (h : compiler.clauseTexts leaf = .ok clauses) : clauses.length = leaf.clauseCount := by
  rw [clauseTexts_eq_ok_iff] at h
  cases leaf with
  | comparison operator field value =>
      obtain ⟨_, _, _, _, rfl⟩ := h
      rfl
  | between field lower upper =>
      obtain ⟨_, _, _, _, _, _, rfl⟩ := h
      rfl
  | textMatch operator field value caseSensitive =>
      obtain ⟨_, _, _, _, rfl⟩ := h
      rfl
  | segment id => exact h.elim

theorem map_clausesOf {leaves : List Condition} {clauses : List (List String)}
    (h : leaves.mapM compiler.clauseTexts = .ok clauses) :
    leaves.map compiler.clausesOf = clauses := by
  rw [mapM_eq_ok_iff] at h
  induction h with
  | nil => rfl
  | cons hleaf _ ih => rw [List.map_cons, clausesOf_eq hleaf, ih]

theorem clausesOf_ne_nil {leaf : Condition} {clauses : List String}
    (h : compiler.clauseTexts leaf = .ok clauses) : compiler.clausesOf leaf ≠ [] := by
  apply List.ne_nil_of_length_pos
  rw [clausesOf_eq h, length_of_clauseTexts h]
  exact leaf.clauseCount_pos

/-- A clause has an operator. -/
theorem marked_of_mem_clausesOf {leaf : Condition} {clause : String}
    (h : clause ∈ compiler.clausesOf leaf) : Marked clause.toList := by
  unfold clausesOf at h
  split at h
  · rename_i clauses hclauses
    rw [clauseTexts_eq_ok_iff] at hclauses
    cases leaf with
    | comparison operator field value =>
        obtain ⟨name, text, _, _, rfl⟩ := hclauses
        rw [List.mem_singleton.1 h]
        exact (marked_filterOperator operator).append_between name text
    | between field lower upper =>
        obtain ⟨name, lowerText, upperText, _, _, _, rfl⟩ := hclauses
        rcases List.mem_pair.1 h with rfl | rfl
        · exact (marked_filterOperator .atLeast).append_between name lowerText
        · exact (marked_filterOperator .atMost).append_between name upperText
    | textMatch operator field value caseSensitive =>
        obtain ⟨name, text, _, _, rfl⟩ := hclauses
        rw [List.mem_singleton.1 h, String.append_assoc]
        have hmatches : Marked "=~".toList := ⟨'=', by decide, by decide⟩
        exact hmatches.append_between name _
    | segment id => exact hclauses.elim
  · exact absurd h List.not_mem_nil

theorem mem_escapeChars {special chars : List Char} {char : Char} (h : char ∈ chars) :
    char ∈ escapeChars special chars := by
  refine List.mem_flatMap.2 ⟨char, h, ?_⟩
  split
  · exact List.mem_cons_of_mem _ List.mem_cons_self
  · exact List.mem_cons_self

/-- The text of a chain of clauses is never blank. -/
theorem allBlank_write {filter : Filter} {chain : Chain Piece}
    (h : filter.chain compiler.clausesOf = some chain) : Text.allBlank chain.write = false := by
  obtain ⟨piece, hpiece⟩ := List.exists_mem_of_ne_nil _ chain.pieces_ne_nil
  obtain ⟨leaf, _, hleaf⟩ := Filter.exists_leaf_of_mem_pieces h hpiece
  obtain ⟨char, hchar, hvisible⟩ := (marked_of_mem_clausesOf hleaf).visible
  have hpieceText : piece.text ∈ (chain.map Piece.text).pieces := by
    rw [Chain.pieces_map]
    exact List.mem_map_of_mem hpiece
  have htext : char ∈ chain.write.toList := by
    rw [Chain.write, String.toList_ofList]
    exact Chain.mem_text hpieceText (List.mem_append_right _ (mem_escapeChars hchar))
  rw [Text.allBlank, List.all_eq_false]
  exact ⟨char, htext, by rw [hvisible]; exact Bool.false_ne_true⟩

theorem write_chain_ne_empty {filter : Filter} {chain : Chain Piece}
    (h : filter.chain compiler.clausesOf = some chain) : chain.write ≠ "" := by
  intro hempty
  have hvisible := allBlank_write h
  rw [hempty] at hvisible
  exact nomatch hvisible

/-- The text of an optional chain. -/
theorem filter_write (filter : Filter) :
    ((filter.chain compiler.clausesOf).map Chain.write).filter (· ≠ "") =
      (filter.chain compiler.clausesOf).map Chain.write := by
  cases h : filter.chain compiler.clausesOf with
  | none => rfl
  | some chain => simp [write_chain_ne_empty h]

theorem write_join (operator : Junction) (chains : List (Chain Piece)) :
    ((Chain.join operator chains).elim "" Chain.write) =
      operator.separator.intercalate (chains.map Chain.write) := by
  apply String.toList_injective
  have htexts : (chains.map Chain.write).map String.toList =
      (chains.map (Chain.map Piece.text)).map Chain.text := by
    rw [List.map_map, List.map_map]
    apply List.map_congr_left
    intro chain _
    exact String.toList_ofList
  calc
    ((Chain.join operator chains).elim "" Chain.write).toList =
        ((Chain.join operator chains).map (Chain.map Piece.text)).elim [] Chain.text := by
      cases Chain.join operator chains with
      | none => rfl
      | some chain => exact String.toList_ofList
    _ = [Chain.separator operator].intercalate
        ((chains.map (Chain.map Piece.text)).map Chain.text) := by
      rw [Chain.map_join, Chain.text_join]
    _ = (operator.separator.intercalate (chains.map Chain.write)).toList := by
      rw [String.toList_intercalate, Chain.toList_separator, htexts]

theorem filterTexts_eq_mapM (children : List Filter) :
    compiler.filterTexts children = children.mapM compiler.filterText := by
  induction children with
  | nil => rfl
  | cons child children ih => rw [filterTexts, ih, List.mapM_cons]

theorem filterText_junction (operator : Junction) (children : List Filter) :
    compiler.filterText (.junction operator children) =
      (children.mapM compiler.filterText >>= fun texts =>
        pure (some (operator.separator.intercalate (nonEmpty texts)))) := by
  rw [← filterTexts_eq_mapM]
  rfl

theorem filterText_negation (child : Filter) :
    compiler.filterText (.negation child) =
      (compiler.filterText child >>= fun text =>
        pure ((text.filter (· ≠ "")).map ("!" ++ ·))) := rfl

theorem filterText_condition_eq_ok_iff {leaf : Condition} {text : Option String} :
    compiler.filterText (.condition leaf) = .ok text ↔
      ∃ clauses, compiler.clauseTexts leaf = .ok clauses ∧
        text = some (andSeparator.intercalate (clauses.map escapeClause)) := by
  change ((compiler.clauseTexts leaf >>= fun clauses =>
    pure (andSeparator.intercalate (clauses.map escapeClause))) >>= fun text =>
      pure (some text)) = .ok text ↔ _
  simp only [bind_eq_ok_iff, pure, Except.pure, Except.ok.injEq]
  constructor
  · rintro ⟨_, ⟨clauses, hclauses, rfl⟩, rfl⟩
    exact ⟨clauses, hclauses, rfl⟩
  · rintro ⟨clauses, hclauses, rfl⟩
    exact ⟨_, ⟨clauses, hclauses, rfl⟩, rfl⟩

/-- A filter is written exactly if each of its leaves is. -/
theorem exists_filterText_iff {filter : Filter} :
    (∃ text, compiler.filterText filter = .ok text) ↔
      ∀ leaf ∈ filter.leaves, ∃ clauses, compiler.clauseTexts leaf = .ok clauses := by
  induction filter using Filter.treeInduction with
  | condition leaf =>
      simp only [filterText_condition_eq_ok_iff, Filter.leaves_condition, List.mem_singleton,
        forall_eq]
      constructor
      · rintro ⟨_, clauses, hclauses, _⟩
        exact ⟨clauses, hclauses⟩
      · rintro ⟨clauses, hclauses⟩
        exact ⟨_, clauses, hclauses, rfl⟩
  | junction operator children ih =>
      rw [filterText_junction]
      simp only [bind_eq_ok_iff, Filter.leaves_junction, List.mem_flatMap]
      constructor
      · rintro ⟨_, texts, htexts, _⟩ leaf ⟨child, hchild, hleaf⟩
        exact (ih child hchild).1 (exists_ok_of_mem htexts hchild) leaf hleaf
      · intro h
        have hchildren : ∀ child ∈ children, ∃ text, compiler.filterText child = .ok text :=
          fun child hchild => (ih child hchild).2 fun leaf hleaf => h leaf ⟨child, hchild, hleaf⟩
        obtain ⟨texts, htexts⟩ := exists_ok_mapM hchildren
        exact ⟨_, texts, htexts, rfl⟩
  | negation child ih =>
      rw [filterText_negation, Filter.leaves_negation, ← ih]
      simp only [bind_eq_ok_iff]
      constructor
      · rintro ⟨_, text, htext, _⟩
        exact ⟨text, htext⟩
      · rintro ⟨text, htext⟩
        exact ⟨_, text, htext, rfl⟩

theorem clausesOf_ne_nil_of_leaf {filter : Filter} {text : Option String}
    (htext : compiler.filterText filter = .ok text) :
    ∀ leaf ∈ filter.leaves, compiler.clausesOf leaf ≠ [] := by
  intro leaf hleaf
  obtain ⟨clauses, hclauses⟩ := exists_filterText_iff.1 ⟨_, htext⟩ leaf hleaf
  exact clausesOf_ne_nil hclauses

/-- The texts of children that say something are those of the chains that they have. -/
theorem nonEmpty_texts {children : List Filter} {texts : List (Option String)}
    (hchildren : ∀ child ∈ children, ∀ {text : Option String},
      compiler.filterText child = .ok text →
        text.filter (· ≠ "") = (child.chain compiler.clausesOf).map Chain.write)
    (htexts : children.mapM compiler.filterText = .ok texts) :
    nonEmpty texts = (children.filterMap (Filter.chain compiler.clausesOf)).map Chain.write := by
  rw [mapM_eq_ok_iff] at htexts
  induction htexts with
  | nil => rfl
  | @cons child text children texts hchild _ ih =>
      have hrest := ih fun other hother => hchildren other (List.mem_cons_of_mem _ hother)
      have hfirst := hchildren child List.mem_cons_self hchild
      rw [nonEmpty, List.filterMap_cons, hfirst, ← nonEmpty, hrest, List.filterMap_cons]
      cases child.chain compiler.clausesOf <;> rfl

/-- The text of a filter, if it says something, is that of its chain. -/
theorem filter_filterText {filter : Filter} {text : Option String}
    (h : compiler.filterText filter = .ok text) :
    text.filter (· ≠ "") = (filter.chain compiler.clausesOf).map Chain.write := by
  induction filter using Filter.treeInduction generalizing text with
  | condition leaf =>
      obtain ⟨clauses, hclauses, rfl⟩ := filterText_condition_eq_ok_iff.1 h
      have hjoin := write_join .and (clauses.map fun clause => .single (.plain clause))
      have hwrite : (clauses.map fun clause => Chain.single (Piece.plain clause)).map Chain.write =
          clauses.map escapeClause := by
        rw [List.map_map]
        rfl
      rw [hwrite] at hjoin
      rw [← filter_write, Filter.chain, clausesOf_eq hclauses]
      change (some (Junction.separator .and |>.intercalate (clauses.map escapeClause))).filter _ = _
      rw [← hjoin]
      cases Chain.join .and (clauses.map fun clause => Chain.single (Piece.plain clause)) <;> rfl
  | junction operator children ih =>
      rw [filterText_junction, bind_eq_ok_iff] at h
      obtain ⟨texts, htexts, htext⟩ := h
      rw [← Except.ok.inj htext, nonEmpty_texts ih htexts, ← write_join, ← filter_write,
        Filter.chain_junction]
      cases Chain.join operator (children.filterMap (Filter.chain compiler.clausesOf)) <;> rfl
  | negation child ih =>
      rw [filterText_negation, bind_eq_ok_iff] at h
      obtain ⟨inner, hinner, htext⟩ := h
      rw [← Except.ok.inj htext, ih hinner, ← filter_write (.negation child)]
      apply congrArg (Option.filter _)
      rw [Filter.chain, Option.map_map, Option.map_map]
      apply congrArg (Option.map · (child.chain compiler.clausesOf))
      funext chain
      exact (Chain.write_mapHead_negate chain).symm

/-- A filter with a non-empty text has a chain, and the text is what is written of it. -/
theorem exists_chain_of_filterText {filter : Filter} {text : String}
    (h : compiler.filterText filter = .ok (some text)) (hne : text ≠ "") :
    ∃ chain, filter.chain compiler.clausesOf = some chain ∧ chain.write = text := by
  have hfilter := filter_filterText h
  have hkept : (some text).filter (fun text => decide (text ≠ "")) = some text := by
    simp [hne]
  rw [hkept] at hfilter
  exact Option.map_eq_some_iff.1 hfilter.symm

/-- A filter that has a chain and is written has the text of that chain. -/
theorem filterText_eq_write {filter : Filter} {text : Option String} {chain : Chain Piece}
    (h : compiler.filterText filter = .ok text)
    (hchain : filter.chain compiler.clausesOf = some chain) : text = some chain.write := by
  have hfilter := filter_filterText h
  rw [hchain] at hfilter
  exact (Option.filter_eq_some_iff.1 hfilter).1

end Compiler

end AnalyticsQuery
