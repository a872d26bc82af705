import AnalyticsQuery.Proofs.FilterText.Readings
import AnalyticsQuery.Proofs.FilterText.Reader

/-!
# Filters that the API reads as they are meant

In filter text `,` binds more tightly than `;`, and an exclamation mark negates one clause.
A filter that has its disjunctions below its conjunctions, and its negations at the leaves,
is read with the meaning that it has, unless the name of a field is taken for a negation.
-/

namespace AnalyticsQuery

open FilterText

/-- A comparison or a text match. -/
def Condition.isSingle : Condition → Bool
  | comparison _ _ _ => true
  | between _ _ _ => false
  | textMatch _ _ _ _ => true
  | segment _ => false

theorem Condition.clauseCount_of_isSingle {leaf : Condition} (h : leaf.isSingle = true) :
    leaf.clauseCount = 1 := by
  cases leaf with
  | between field lower upper => exact nomatch h
  | _ => rfl

namespace Filter

/-- A comparison or a text match, or the negation of one. -/
inductive IsLiteral : Filter → Prop
  | plain {leaf : Condition} (hleaf : leaf.isSingle = true) : IsLiteral (.condition leaf)
  | negated {leaf : Condition} (hleaf : leaf.isSingle = true) :
      IsLiteral (.negation (.condition leaf))

/-- Literals, and disjunctions of such filters. -/
inductive IsDisjunction : Filter → Prop
  | literal {filter : Filter} (hfilter : filter.IsLiteral) : IsDisjunction filter
  | junction {children : List Filter} (hne : children ≠ [])
      (hchildren : ∀ child ∈ children, IsDisjunction child) : IsDisjunction (.junction .or children)

/-- Ranges and disjunctions of literals, and conjunctions of such filters. -/
inductive IsConjunction : Filter → Prop
  | disjunction {filter : Filter} (hfilter : filter.IsDisjunction) : IsConjunction filter
  | between (field : Field) (lower upper : Operand) :
      IsConjunction (.condition (.between field lower upper))
  | junction {children : List Filter} (hne : children ≠ [])
      (hchildren : ∀ child ∈ children, IsConjunction child) :
      IsConjunction (.junction .and children)

end Filter

namespace FilterText

/-! ## Clauses without a mark -/

/-- Escaping does not put an exclamation mark in front. -/
theorem head?_escapeChars {chars : List Char} (h : chars.head? ≠ some '!') :
    (escapeChars clauseCharacters chars).head? ≠ some '!' := by
  cases chars with
  | nil => exact nofun
  | cons char chars =>
      rw [escapeChars_cons]
      split
      · rw [List.cons_append, List.head?_cons]
        decide
      · exact h

theorem alternativeHolds_plain {truth : String → Bool} {clause : String}
    (h : clause.toList.head? ≠ some '!') :
    alternativeHolds truth (Piece.plain clause).text = truth (escapeClause clause) :=
  alternativeHolds_of_head? (head?_escapeChars h)

theorem alternativeHolds_negate_plain (truth : String → Bool) (clause : String) :
    alternativeHolds truth (Piece.plain clause).negate.text = !truth (escapeClause clause) := by
  rw [Piece.text_negate]
  rfl

theorem head?_clause {name operator : String} (text : String) (hoperator : operator ≠ "")
    (hname : name.toList.head? ≠ some '!')
    (hempty : name = "" → operator.toList.head? ≠ some '!') :
    (name ++ operator ++ text).toList.head? ≠ some '!' := by
  rw [String.toList_append, String.toList_append, List.append_assoc]
  cases hchars : name.toList with
  | cons char chars =>
      rw [hchars] at hname
      exact hname
  | nil =>
      have hhead := hempty (String.toList_injective hchars)
      cases hrest : operator.toList with
      | nil => exact absurd (String.toList_injective hrest) hoperator
      | cons char chars =>
          rw [hrest] at hhead
          exact hhead

end FilterText

/-! ## Chains that are read as their filters -/

namespace Filter

variable {clauses : Condition → List String} {truth : String → Bool} {filter : Filter}

/-- As many clauses as the condition has, none of which looks negated. -/
structure Legible (clauses : Condition → List String) (leaf : Condition) : Prop where
  count : (clauses leaf).length = leaf.clauseCount
  unmarked : ∀ clause ∈ clauses leaf, clause.toList.head? ≠ some '!'

theorem Legible.exists_clause {leaf : Condition} (h : Legible clauses leaf)
    (hleaf : leaf.isSingle = true) :
    ∃ clause, clauses leaf = [clause] ∧ clause.toList.head? ≠ some '!' := by
  have hlength := h.count.trans (Condition.clauseCount_of_isSingle hleaf)
  obtain ⟨clause, hclause⟩ := List.length_eq_one_iff.1 hlength
  exact ⟨clause, hclause, h.unmarked clause (by rw [hclause]; exact List.mem_singleton_self clause)⟩

section Joined

variable {operator : Junction} {items : List Filter}

theorem exists_join_filterMap (hne : items ≠ [])
    (hitems : ∀ item ∈ items, ∃ part, item.chain clauses = some part) :
    ∃ joined, (junction operator items).chain clauses = some joined := by
  obtain ⟨first, others, rfl⟩ := List.exists_cons_of_ne_nil hne
  obtain ⟨part, hpart⟩ := hitems first List.mem_cons_self
  rw [chain_junction, List.filterMap_cons, hpart, ← Option.ne_none_iff_exists', Ne,
    Chain.join_eq_none_iff]
  exact List.cons_ne_nil _ _

/-- What is known of each child and its chain is known of the list of both. -/
theorem map_eq_map_filterMap {value : Filter → Bool} {chainValue : Chain Piece → Bool}
    (hitems : ∀ item ∈ items, ∃ part, item.chain clauses = some part ∧
      chainValue part = value item) :
    (items.filterMap (chain clauses)).map chainValue = items.map value := by
  induction items with
  | nil => rfl
  | cons item items ih =>
      obtain ⟨part, hpart, hvalue⟩ := hitems item List.mem_cons_self
      have hrest := ih fun other hother => hitems other (List.mem_cons_of_mem _ hother)
      rw [List.filterMap_cons, hpart, List.map_cons, List.map_cons, hvalue, hrest]

end Joined

/-- The value of a condition, if the compiled texts of its clauses have the given values. -/
def clausesHold (clauses : Condition → List String) (truth : String → Bool) (leaf : Condition) :
    Bool :=
  (clauses leaf).all fun clause => truth (escapeClause clause)

theorem IsLiteral.exists_piece (h : filter.IsLiteral)
    (hleaves : ∀ leaf ∈ filter.leaves, Legible clauses leaf) :
    ∃ piece, filter.chain clauses = some (.single piece) ∧
      alternativeHolds truth piece.text = filter.holds (clausesHold clauses truth) := by
  cases h with
  | @plain leaf hleaf =>
      obtain ⟨clause, hclause, hunmarked⟩ :=
        (hleaves leaf (List.mem_singleton_self leaf)).exists_clause hleaf
      refine ⟨.plain clause, ?_, ?_⟩
      · rw [chain, hclause]
        rfl
      · rw [alternativeHolds_plain hunmarked, holds_condition, clausesHold, hclause]
        exact (Bool.and_true _).symm
  | @negated leaf hleaf =>
      obtain ⟨clause, hclause, _⟩ :=
        (hleaves leaf (List.mem_singleton_self leaf)).exists_clause hleaf
      refine ⟨(Piece.plain clause).negate, ?_, ?_⟩
      · rw [chain, chain, hclause]
        rfl
      · rw [alternativeHolds_negate_plain, holds_negation, holds_condition, clausesHold, hclause]
        exact congrArg not (Bool.and_true _).symm

/-- The chain of a disjunction is a single group of alternatives. -/
theorem IsDisjunction.exists_group (h : filter.IsDisjunction)
    (hleaves : ∀ leaf ∈ filter.leaves, Legible clauses leaf) :
    ∃ chain, filter.chain clauses = some chain ∧ chain.groups .and = [chain.pieces] ∧
      (chain.pieces.any fun piece => alternativeHolds truth piece.text) =
        filter.holds (clausesHold clauses truth) := by
  induction h with
  | literal hfilter =>
      obtain ⟨piece, hpiece, hvalue⟩ := hfilter.exists_piece hleaves
      refine ⟨.single piece, hpiece, rfl, ?_⟩
      rw [← hvalue]
      exact Bool.or_false _
  | @junction children hne _ ih =>
      have hparts := fun child hchild => ih child hchild fun leaf hleaf =>
        hleaves leaf (mem_leaves_junction hchild hleaf)
      obtain ⟨joined, hjoined⟩ := @exists_join_filterMap _ .or _ hne fun child hchild =>
        (hparts child hchild).imp fun _ hpart => hpart.1
      have hjoin := hjoined
      rw [chain_junction] at hjoin
      refine ⟨joined, hjoined, ?_, ?_⟩
      · apply @Chain.groups_join_other _ .and _ _ hjoin
        intro part hpart
        obtain ⟨child, hchild, hchain⟩ := List.mem_filterMap.1 hpart
        obtain ⟨other, hother, hgroups, _⟩ := hparts child hchild
        rwa [← Option.some.inj (hother.symm.trans hchain)]
      · have hpieces := Chain.piecesIn_join .or (children.filterMap (chain clauses))
        rw [hjoin] at hpieces
        have hvalues := map_eq_map_filterMap fun child hchild =>
          (hparts child hchild).imp fun _ hpart => ⟨hpart.1, hpart.2.2⟩
        rw [holds_junction, ← hvalues, Junction.combine, List.any_map]
        change (Chain.piecesIn (some joined)).any _ = _
        rw [hpieces, List.any_flatMap]
        rfl

/-- The chain of a conjunction is read as the conjunction. -/
theorem IsConjunction.exists_chain (h : filter.IsConjunction)
    (hleaves : ∀ leaf ∈ filter.leaves, Legible clauses leaf) :
    ∃ chain, filter.chain clauses = some chain ∧
      chain.reads truth = filter.holds (clausesHold clauses truth) := by
  induction h with
  | disjunction hfilter =>
      obtain ⟨chain, hchain, hgroups, hvalue⟩ := hfilter.exists_group hleaves
      refine ⟨chain, hchain, ?_⟩
      rw [Chain.reads, hgroups, ← hvalue]
      exact Bool.and_true _
  | between field lower upper =>
      have hlegible := hleaves _ (List.mem_singleton_self _)
      obtain ⟨lowerClause, upperClause, hclauses⟩ := List.length_eq_two.1 hlegible.count
      have hunmarked := hlegible.unmarked
      rw [hclauses, List.forall_mem_cons, List.forall_mem_singleton] at hunmarked
      refine ⟨.link (.plain lowerClause) .and (.single (.plain upperClause)), ?_, ?_⟩
      · rw [chain, hclauses]
        rfl
      · rw [holds_condition, clausesHold, hclauses, List.all_cons, List.all_cons, List.all_nil,
          ← @alternativeHolds_plain truth _ hunmarked.1,
          ← @alternativeHolds_plain truth _ hunmarked.2]
        simp [Chain.reads, Chain.groups]
  | @junction children hne _ ih =>
      have hparts := fun child hchild => ih child hchild fun leaf hleaf =>
        hleaves leaf (mem_leaves_junction hchild hleaf)
      obtain ⟨joined, hjoined⟩ := @exists_join_filterMap _ .and _ hne fun child hchild =>
        (hparts child hchild).imp fun _ hpart => hpart.1
      refine ⟨joined, hjoined, ?_⟩
      rw [chain_junction] at hjoined
      rw [holds_junction, ← map_eq_map_filterMap hparts, Chain.reads,
        Chain.groups_join_self hjoined, List.all_flatMap, Junction.combine, List.all_map]
      rfl

end Filter

/-! ## Texts that are read as their filters -/

namespace Compiler

variable {compiler : Compiler} {filter : Filter}

/-- The name of a condition's field does not begin with an exclamation mark, nor does an
empty name leave the one of `!=` in front. -/
def UnmarkedName (compiler : Compiler) (leaf : Condition) : Prop :=
  ∀ field name, leaf.field? = some field → compiler.fieldName field = .ok name →
    name.toList.head? ≠ some '!' ∧ (leaf.symbol = Comparison.notEqual.symbol → name ≠ "")

theorem unmarkedName_of_literal {leaf : Condition} {name : String}
    (hfield : leaf.field? = some (.plain (.literal name))) (hmark : name.toList.head? ≠ some '!')
    (hne : name ≠ "") : compiler.UnmarkedName leaf := by
  intro other resolved hother hresolved
  obtain rfl := Option.some.inj (hfield.symm.trans hother)
  obtain rfl := Except.ok.inj hresolved
  exact ⟨hmark, fun _ => hne⟩

theorem legible_of_unmarkedName {leaf : Condition} {clauses : List String}
    (hclauses : compiler.clauseTexts leaf = .ok clauses) (hname : compiler.UnmarkedName leaf) :
    Filter.Legible compiler.clausesOf leaf := by
  refine ⟨by rw [clausesOf_eq hclauses, length_of_clauseTexts hclauses], ?_⟩
  rw [clausesOf_eq hclauses]
  rw [clauseTexts_eq_ok_iff] at hclauses
  cases leaf with
  | comparison operator field value =>
      obtain ⟨name, text, hfield, _, rfl⟩ := hclauses
      obtain ⟨hmark, hempty⟩ := hname field name rfl hfield
      rw [List.forall_mem_singleton]
      cases operator with
      | notEqual => exact head?_clause text (by decide) hmark fun h => absurd h (hempty rfl)
      | _ => exact head?_clause text (by decide) hmark fun _ => by decide
  | between field lower upper =>
      obtain ⟨name, lowerText, upperText, hfield, _, _, rfl⟩ := hclauses
      obtain ⟨hmark, _⟩ := hname field name rfl hfield
      rw [List.forall_mem_cons, List.forall_mem_singleton]
      exact ⟨head?_clause lowerText (by decide) hmark fun _ => by decide,
        head?_clause upperText (by decide) hmark fun _ => by decide⟩
  | textMatch operator field value caseSensitive =>
      obtain ⟨name, text, hfield, _, rfl⟩ := hclauses
      obtain ⟨hmark, _⟩ := hname field name rfl hfield
      rw [List.forall_mem_singleton, String.append_assoc]
      exact head?_clause _ (by decide) hmark fun _ => by decide
  | segment id => exact hclauses.elim

/-- A conjunction of ranges and of disjunctions of literals has a text if each of its leaves
has clauses, and the API reads that text as the filter: whichever of the compiled clauses
hold, one holds exactly if the other does. -/
theorem reads_filterText (hfilter : filter.IsConjunction)
    (hnames : ∀ leaf ∈ filter.leaves, compiler.UnmarkedName leaf) :
    ((∃ text, compiler.filterText filter = .ok (some text)) ↔
      ∀ leaf ∈ filter.leaves, ∃ clauses, compiler.clauseTexts leaf = .ok clauses) ∧
    ∀ text, compiler.filterText filter = .ok (some text) →
      ∀ truth, reads truth text = compiler.holds truth filter := by
  have hchain : (∀ leaf ∈ filter.leaves, ∃ clauses, compiler.clauseTexts leaf = .ok clauses) →
      ∀ truth, ∃ chain, filter.chain compiler.clausesOf = some chain ∧
        chain.reads truth = compiler.holds truth filter := by
    intro hclauses truth
    apply hfilter.exists_chain
    intro leaf hleaf
    obtain ⟨clauses, htexts⟩ := hclauses leaf hleaf
    exact legible_of_unmarkedName htexts (hnames leaf hleaf)
  refine ⟨⟨?_, ?_⟩, ?_⟩
  · rintro ⟨text, htext⟩
    exact exists_filterText_iff.1 ⟨_, htext⟩
  · intro hclauses
    obtain ⟨text, htext⟩ := exists_filterText_iff.2 hclauses
    obtain ⟨chain, hwritten, _⟩ := hchain hclauses fun _ => true
    exact ⟨chain.write, by rw [htext, filterText_eq_write htext hwritten]⟩
  · intro text htext truth
    obtain ⟨chain, hwritten, hvalue⟩ := hchain (exists_filterText_iff.1 ⟨_, htext⟩) truth
    have hwrite : text = chain.write := Option.some.inj (filterText_eq_write htext hwritten)
    rw [hwrite, reads_write, hvalue]

/-- A range next to a disjunction with a negation and a value with separators in it. -/
theorem reads_filterText_nested :
    let field (name : String) : Field := .plain (.literal name)
    let filter : Filter := .junction .and
      [.condition (.between (field "ga:a") (.literal (.int 1) none) (.literal (.int 10) none)),
        .junction .or
          [.condition (.comparison .equal (field "ga:b") (.literal (.text "x,y;z") none)),
            .negation (.condition (.textMatch .contains (field "ga:c")
              (.literal (.text "w") none) true))]]
    let text := "ga:a>=1;ga:a<=10;ga:b==x\\,y\\;z,!ga:c=~(?-i)w"
    filter.IsConjunction ∧ (∀ leaf ∈ filter.leaves, bare.UnmarkedName leaf) ∧
      bare.filterText filter = .ok (some text) ∧
      ∀ truth, reads truth text = bare.holds truth filter := by
  intro field filter text
  have hfilter : filter.IsConjunction := by
    refine .junction (List.cons_ne_nil _ _) (List.forall_mem_cons.2 ⟨.between _ _ _, ?_⟩)
    refine List.forall_mem_singleton.2 (.disjunction (.junction (List.cons_ne_nil _ _) ?_))
    refine List.forall_mem_cons.2 ⟨.literal (.plain rfl), ?_⟩
    exact List.forall_mem_singleton.2 (.literal (.negated rfl))
  have hnames : ∀ leaf ∈ filter.leaves, bare.UnmarkedName leaf := by
    change ∀ leaf ∈ [_, _, _], bare.UnmarkedName leaf
    rw [List.forall_mem_cons, List.forall_mem_cons, List.forall_mem_singleton]
    exact ⟨unmarkedName_of_literal rfl (by decide) (by decide),
      unmarkedName_of_literal rfl (by decide) (by decide),
      unmarkedName_of_literal rfl (by decide) (by decide)⟩
  have htext : bare.filterText filter = .ok (some text) := by decide +kernel
  exact ⟨hfilter, hnames, htext, (reads_filterText hfilter hnames).2 text htext⟩

/-- Without a name, the operator of `!=` is read as a negation. -/
theorem not_reads_nameless :
    let nameless : Field := .plain (.literal "")
    let filter : Filter := .junction .and
      [.condition (.comparison .notEqual nameless (.literal (.text "=1") none)),
        .condition (.comparison .equal nameless (.literal (.int 1) none))]
    filter.IsConjunction ∧
      (∀ leaf ∈ filter.leaves, ∀ field name, leaf.field? = some field →
        bare.fieldName field = .ok name → name.toList.head? ≠ some '!') ∧
      bare.filterText filter = .ok (some "!==1;==1") ∧
      reads (fun _ => true) "!==1;==1" = false ∧ bare.holds (fun _ => true) filter = true := by
  intro nameless filter
  refine ⟨?_, ?_, by decide +kernel, by decide, by decide +kernel⟩
  · exact .junction (List.cons_ne_nil _ _) (List.forall_mem_cons.2
      ⟨.disjunction (.literal (.plain rfl)),
        List.forall_mem_singleton.2 (.disjunction (.literal (.plain rfl)))⟩)
  · have hunmarked : ∀ field name, some nameless = some field → bare.fieldName field = .ok name →
        name.toList.head? ≠ some '!' := by
      rintro field name hfield hname
      obtain rfl := Option.some.inj hfield
      obtain rfl := Except.ok.inj hname
      decide
    change ∀ leaf ∈ [_, _], _
    rw [List.forall_mem_cons, List.forall_mem_singleton]
    exact ⟨hunmarked, hunmarked⟩

end Compiler

end AnalyticsQuery
