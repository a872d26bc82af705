import AnalyticsQuery.Proofs.FilterText.Readings

/-!
# Texts with one meaning

A text has one meaning if all filters without empty junctions that are written as it
hold under the same conditions.  Nested junctions and negations get no parentheses, so
not every text has: exactly those do in which no piece looks negated, and in which each
run of clauses joined by `;` shares a clause with each run joined by `,`.
-/

namespace AnalyticsQuery.Compiler

open Fallible
open FilterText

variable {compiler : Compiler} {filter : Filter} {text : String}

/-- Whether all filters that are written as a text hold alike, whichever of the compiled
clauses do. -/
def HasOneMeaning (compiler : Compiler) (text : String) : Prop :=
  ∀ left right : Filter, left.NoEmptyJunction → right.NoEmptyJunction →
    compiler.filterText left = .ok (some text) → compiler.filterText right = .ok (some text) →
      ∀ truth, compiler.holds truth left = compiler.holds truth right

/-- No piece is an exclamation mark and a text to which some condition compiles. -/
def NoNegatedPiece (compiler : Compiler) (text : String) : Prop :=
  ∀ piece ∈ (split text.toList).pieces, ∀ rest, piece = '!' :: rest →
    ¬compiler.IsClauseText rest

/-- Each run of pieces joined by `;` shares a piece with each run joined by `,`. -/
def RunsOverlap (text : String) : Prop :=
  ∀ conjoined ∈ (split text.toList).groups .or, ∀ disjoined ∈ (split text.toList).groups .and,
    ∃ piece ∈ conjoined, piece ∈ disjoined

/-! ## Texts that satisfy the condition -/

theorem negations_eq_zero {chain : Chain Piece}
    (hchain : filter.chain compiler.clausesOf = some chain)
    (hsplit : chain.map Piece.text = split text.toList)
    (hpositive : compiler.NoNegatedPiece text) :
    ∀ piece ∈ chain.pieces, piece.negations = 0 := by
  intro piece hpiece
  have hmem : piece.text ∈ (split text.toList).pieces := by
    rw [← hsplit, Chain.pieces_map]
    exact List.mem_map_of_mem hpiece
  cases hnegations : piece.negations with
  | zero => rfl
  | succ count =>
      have htext : piece.text = '!' :: (List.replicate count '!' ++
          escapeChars clauseCharacters piece.clause.toList) := by
        rw [Piece.text, hnegations, List.replicate_succ, List.cons_append]
      exact absurd (isClauseText_of_mem_pieces hchain hpiece count)
        (hpositive piece.text hmem _ htext)

/-- A filter whose text has no negated piece has the value that covers the text. -/
theorem holds_of_covered_split {truth : String → Bool} {separator : Junction}
    (hfilter : filter.NoEmptyJunction) (htext : compiler.filterText filter = .ok (some text))
    (hpositive : compiler.NoNegatedPiece text)
    (hcovered : ∀ group ∈ (split text.toList).groups separator,
      ∃ piece ∈ group, truth (String.ofList piece) = separator.truth) :
    compiler.holds truth filter = separator.truth := by
  obtain ⟨chain, hchain, hsplit⟩ := (writtenAs_split hfilter htext).pieces
  apply Filter.holds_of_covered hfilter (clausesOf_ne_nil_of_leaf htext) hchain
    (negations_eq_zero hchain hsplit hpositive)
  rw [Chain.covered_iff]
  intro group hgroup
  have hmem : group.map Piece.text ∈ (split text.toList).groups separator := by
    rw [← hsplit, Chain.groups_map]
    exact List.mem_map_of_mem hgroup
  obtain ⟨_, htexts, hvalue⟩ := hcovered _ hmem
  obtain ⟨piece, hpiece, rfl⟩ := List.mem_map.1 htexts
  exact ⟨piece, hpiece, hvalue⟩

theorem hasOneMeaning_of_runsOverlap (hpositive : compiler.NoNegatedPiece text)
    (hoverlap : RunsOverlap text) : compiler.HasOneMeaning text := by
  intro left right hleft hright hleftText hrightText truth
  by_cases hall : ∀ group ∈ (split text.toList).groups .and,
      ∃ piece ∈ group, truth (String.ofList piece) = Junction.and.truth
  · rw [holds_of_covered_split hleft hleftText hpositive hall,
      holds_of_covered_split hright hrightText hpositive hall]
  · -- Some run joined by `,` fails as a whole, and with it every run joined by `;`.
    push Not at hall
    obtain ⟨disjoined, hdisjoined, hfails⟩ := hall
    have hnone : ∀ group ∈ (split text.toList).groups .or,
        ∃ piece ∈ group, truth (String.ofList piece) = Junction.or.truth := by
      intro conjoined hconjoined
      obtain ⟨piece, hpiece, hshared⟩ := hoverlap conjoined hconjoined disjoined hdisjoined
      exact ⟨piece, hpiece, Bool.eq_false_iff.2 (hfails piece hshared)⟩
    rw [holds_of_covered_split hleft hleftText hpositive hnone,
      holds_of_covered_split hright hrightText hpositive hnone]

/-! ## Texts that do not -/

theorem isClauseText_of_mem_split (hfilter : filter.NoEmptyJunction)
    (htext : compiler.filterText filter = .ok (some text)) :
    ∀ piece ∈ (split text.toList).pieces, compiler.IsClauseText piece := by
  obtain ⟨chain, hchain, hsplit⟩ := (writtenAs_split hfilter htext).pieces
  intro piece hpiece
  rw [← hsplit, Chain.pieces_map] at hpiece
  obtain ⟨source, hsource, rfl⟩ := List.mem_map.1 hpiece
  exact isClauseText_of_mem_pieces hchain hsource source.negations

theorem combine_not_ne_truth (junction : Junction) :
    junction.combine [junction.truth, !junction.truth] ≠ junction.truth := by
  cases junction <;> exact Bool.noConfusion

/-- A chain whose first piece looks negated is also the text of the negation of a filter.
When all clauses have one value, that negation has the other. -/
theorem exists_writtenAs_negation {chain : Chain (List Char)} {rest : List Char}
    (hclauses : ∀ piece ∈ chain.pieces, compiler.IsClauseText piece)
    (hhead : chain.head = '!' :: rest) (hrest : compiler.IsClauseText rest) :
    ∃ other : Filter, compiler.WrittenAs other chain ∧
      ∀ value, compiler.holds (fun _ => value) other = !value := by
  have hpositive : ∀ piece ∈ (chain.mapHead fun _ => rest).pieces,
      compiler.IsClauseText piece := by
    intro piece hpiece
    rcases Chain.mem_pieces_mapHead_const hpiece with rfl | hmem
    · exact hrest
    · exact hclauses piece hmem
  obtain ⟨leaves, hleaves, htexts⟩ := exists_singleClauses hpositive
  have hwritten := (writtenAs_grouped .and hleaves).negation
  rw [htexts, Chain.mapHead_mapHead_const hhead] at hwritten
  refine ⟨_, hwritten, ?_⟩
  intro value
  exact congrArg (! ·) (holds_grouped_const .and hleaves value)

/-- If a piece looks negated, some filter with that text negates it and all that follows;
when all clauses have one value, that filter has the other. -/
theorem exists_negated
    (hclauses : ∀ piece ∈ (split text.toList).pieces, compiler.IsClauseText piece)
    {rest : List Char} (hpiece : '!' :: rest ∈ (split text.toList).pieces)
    (hrest : compiler.IsClauseText rest) :
    ∃ other : Filter, other.NoEmptyJunction ∧ compiler.filterText other = .ok (some text) ∧
      ∃ value, compiler.holds (fun _ => value) other ≠ value := by
  obtain ⟨suffix, hhead, hwhole | ⟨junction, before, happend⟩⟩ := Chain.exists_suffix hpiece
  · rw [hwhole] at hclauses
    obtain ⟨other, hother, hvalue⟩ := exists_writtenAs_negation hclauses hhead hrest
    rw [← hwhole] at hother
    refine ⟨other, hother.noEmptyJunction, hother.filterText, true, ?_⟩
    rw [hvalue]
    exact Bool.false_ne_true
  · rw [happend, Chain.pieces_append, List.forall_mem_append] at hclauses
    obtain ⟨hbefore, hsuffix⟩ := hclauses
    obtain ⟨negated, hnegated, hvalue⟩ := exists_writtenAs_negation hsuffix hhead hrest
    obtain ⟨others, hothers, htexts⟩ := exists_singleClauses hbefore
    have hwritten := (writtenAs_grouped .and hothers).junction junction hnegated
    rw [htexts, ← happend] at hwritten
    refine ⟨_, hwritten.noEmptyJunction, hwritten.filterText, junction.truth, ?_⟩
    have hparts : compiler.holds (fun _ => junction.truth)
        (.junction junction [.grouped .and others, negated]) =
          junction.combine [junction.truth, !junction.truth] := by
      have hfirst := holds_grouped_const .and hothers junction.truth
      have hsecond := hvalue junction.truth
      apply (Filter.holds_junction _ _).trans
      exact congrArg₂ (fun left right => junction.combine [left, right]) hfirst hsecond
    rw [hparts]
    exact combine_not_ne_truth junction

/-- The text of a filter has one meaning exactly if none of its pieces looks negated and
its runs overlap. -/
theorem hasOneMeaning_iff (hfilter : filter.NoEmptyJunction)
    (htext : compiler.filterText filter = .ok (some text)) :
    compiler.HasOneMeaning text ↔ compiler.NoNegatedPiece text ∧ RunsOverlap text := by
  constructor
  · intro hmeaning
    have hclauses := isClauseText_of_mem_split hfilter htext
    obtain ⟨leaves, hleaves, hsplit⟩ := exists_singleClauses hclauses
    have hreading : ∀ separator, compiler.filterText (.grouped separator leaves) =
        .ok (some text) := by
      intro separator
      have hwritten := writtenAs_grouped separator hleaves
      rw [hsplit] at hwritten
      exact hwritten.filterText
    refine ⟨?_, ?_⟩
    · rintro _ hpiece rest rfl hrest
      obtain ⟨other, hother, hotherText, value, hne⟩ := exists_negated hclauses hpiece hrest
      apply hne
      rw [hmeaning other (.grouped .and leaves) hother (Filter.noEmptyJunction_grouped .and leaves)
        hotherText (hreading .and), holds_grouped_const .and hleaves value]
    · intro conjoined hconjoined disjoined hdisjoined
      by_contra hapart
      -- Let exactly the pieces of the run joined by `;` hold.
      have hsame := hmeaning _ _ (Filter.noEmptyJunction_grouped .or leaves)
        (Filter.noEmptyJunction_grouped .and leaves) (hreading .or) (hreading .and)
        fun clause => decide (clause.toList ∈ conjoined)
      have hor := holds_grouped .or hleaves fun clause => decide (clause.toList ∈ conjoined)
      have hand := holds_grouped .and hleaves fun clause => decide (clause.toList ∈ conjoined)
      rw [hsplit] at hor hand
      simp only [String.toList_ofList] at hor hand
      have hholds : compiler.holds (fun clause => decide (clause.toList ∈ conjoined))
          (.grouped .or leaves) = true := by
        rw [← Bool.not_eq_false]
        intro hfalse
        obtain ⟨piece, hpiece, hvalue⟩ := hor.1 hfalse conjoined hconjoined
        exact of_decide_eq_false hvalue hpiece
      obtain ⟨piece, hpiece, hvalue⟩ := hand.1 (hsame.symm.trans hholds) disjoined hdisjoined
      exact hapart ⟨piece, of_decide_eq_true hvalue, hpiece⟩
  · rintro ⟨hpositive, hoverlap⟩
    exact hasOneMeaning_of_runsOverlap hpositive hoverlap

/-- A conjunction of two clauses is the only meaning of its text. -/
theorem hasOneMeaning_conjunction :
    let both : Filter := .junction .and
      [.condition (.comparison .equal (.plain (.literal "ga:a")) (.literal (.int 1) none)),
        .condition (.comparison .equal (.plain (.literal "ga:b")) (.literal (.int 2) none))]
    both.NoEmptyJunction ∧ bare.filterText both = .ok (some "ga:a==1;ga:b==2") ∧
      bare.HasOneMeaning "ga:a==1;ga:b==2" := by
  intro both
  have hfilter : both.NoEmptyJunction := by
    simp [both, Filter.noEmptyJunction_condition]
  have htext : bare.filterText both = .ok (some "ga:a==1;ga:b==2") := rfl
  have hpositive : bare.NoNegatedPiece "ga:a==1;ga:b==2" := by
    intro piece hpiece rest hmark
    rw [hmark] at hpiece
    rcases List.mem_pair.1 hpiece with hfirst | hsecond
    · exact nomatch hfirst
    · exact nomatch hsecond
  have hoverlap : RunsOverlap "ga:a==1;ga:b==2" := by
    unfold RunsOverlap
    decide
  exact ⟨hfilter, htext, (hasOneMeaning_iff hfilter htext).2 ⟨hpositive, hoverlap⟩⟩

/-- Two groupings of three clauses have the same text, but not the same meaning. -/
theorem not_hasOneMeaning_grouping :
    let clause (name : String) (value : Int) : Filter :=
      .condition (.comparison .equal (.plain (.literal name)) (.literal (.int value) none))
    let disjoined : Filter := .junction .and
      [.junction .or [clause "ga:a" 1, clause "ga:b" 2], clause "ga:c" 3]
    let conjoined : Filter := .junction .or
      [clause "ga:a" 1, .junction .and [clause "ga:b" 2, clause "ga:c" 3]]
    disjoined.NoEmptyJunction ∧ conjoined.NoEmptyJunction ∧
      bare.filterText disjoined = .ok (some "ga:a==1,ga:b==2;ga:c==3") ∧
      bare.filterText conjoined = .ok (some "ga:a==1,ga:b==2;ga:c==3") ∧
      bare.holds (· = "ga:a==1") disjoined = false ∧
      bare.holds (· = "ga:a==1") conjoined = true ∧
      ¬bare.HasOneMeaning "ga:a==1,ga:b==2;ga:c==3" := by
  intro clause disjoined conjoined
  have hdisjoined : disjoined.NoEmptyJunction := by
    simp [disjoined, clause, Filter.noEmptyJunction_condition]
  have hconjoined : conjoined.NoEmptyJunction := by
    simp [conjoined, clause, Filter.noEmptyJunction_condition]
  have hdisjoinedText : bare.filterText disjoined = .ok (some "ga:a==1,ga:b==2;ga:c==3") := rfl
  have hconjoinedText : bare.filterText conjoined = .ok (some "ga:a==1,ga:b==2;ga:c==3") := rfl
  have hfails : bare.holds (· = "ga:a==1") disjoined = false := by decide
  have hholds : bare.holds (· = "ga:a==1") conjoined = true := by decide
  refine ⟨hdisjoined, hconjoined, hdisjoinedText, hconjoinedText, hfails, hholds, ?_⟩
  intro hmeaning
  have hsame := hmeaning disjoined conjoined hdisjoined hconjoined hdisjoinedText hconjoinedText
    (· = "ga:a==1")
  rw [hfails, hholds] at hsame
  exact Bool.false_ne_true hsame

end AnalyticsQuery.Compiler
