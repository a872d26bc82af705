import AnalyticsQuery.Proofs.Fallible
import AnalyticsQuery.Proofs.Form.Faults
import AnalyticsQuery.Proofs.Form.Interchange

/-!
# Faults of filters and queries

A query that is not accepted is to be rejected with a list of issues.  It is, unless a list
somewhere in it ends before its arguments, the options of a text match are none, or what
stands for a collection of the query is none, and nothing before that place, or around it,
is an issue of its own that keeps it from being looked at.  The documents for which a reader
breaks off are described here without the readers, and exactly.
-/

namespace AnalyticsQuery

open Document (Entries Parts entriesOf)

/-! ## Conditions -/

/-- Number of arguments that the list of a condition needs. -/
def ConditionTag.arity : ConditionTag → Nat
  | comparison _ => 2
  | between => 3
  | textMatch _ => 2
  | segment => 1

namespace Condition

/-- What cannot be searched for the option for case sensitivity, or holds the name of the
option without a value. -/
def NoOptions : Document → Prop
  | .object _ => False
  | .list items => .text caseLabel.wire ∈ items ∨ .text caseLabel.plain ∈ items
  | .text value => Text.hasPart caseLabel.wire.toList value.toList ∨
      Text.hasPart caseLabel.plain.toList value.toList
  | _ => True

theorem caseOption?_eq_error_iff {options : Document} {fault : Fault} :
    caseOption? options = .error fault ↔ NoOptions options ∧ fault = .wrongType := by
  have hwrong : ∀ condition : Prop, condition →
      ((Except.error Fault.wrongType : Except Fault (Option Document)) = .error fault ↔
        condition ∧ fault = .wrongType) := by
    intro condition hcondition
    constructor
    · rintro ⟨⟩
      exact ⟨hcondition, rfl⟩
    · rintro ⟨_, rfl⟩
      rfl
  cases options with
  | object entries => exact iff_of_false nofun fun h => h.1
  | list items =>
      rw [caseOption?, NoOptions]
      split
      · exact hwrong _ ‹_›
      · exact iff_of_false (by simp) fun h => absurd h.1 ‹_›
  | text value =>
      rw [caseOption?, NoOptions]
      split
      · exact hwrong _ ‹_›
      · exact iff_of_false (by simp) fun h => absurd h.1 ‹_›
  | _ => exact hwrong _ trivial

/-- The arguments of a text match, the third of which is taken for its options. -/
def BadOptions : ConditionTag → List Document → Prop
  | .textMatch _, _ :: _ :: options :: _ => NoOptions options
  | _, _ => False

theorem expandArguments_textMatch_eq_error_iff {operator : TextMatch}
    {field value options : Document} {rest : List Document} {fault : Fault} :
    expandArguments (.textMatch operator) (field :: value :: options :: rest) = .error fault ↔
      NoOptions options ∧ fault = .wrongType := by
  rw [← caseOption?_eq_error_iff, expandArguments]
  cases hcase : caseOption? options with
  | error other =>
      constructor <;>
        · rintro ⟨⟩
          rfl
  | ok option => cases option <;> constructor <;> rintro ⟨⟩

/-- The arguments of a condition cannot be told apart if there are too few of them, or if
what stands for the options of a text match is none. -/
theorem expandArguments_eq_error_iff {tag : ConditionTag} {arguments : List Document}
    {fault : Fault} : expandArguments tag arguments = .error fault ↔
      arguments.length < tag.arity ∧ fault = .missingArgument ∨
        BadOptions tag arguments ∧ fault = .wrongType := by
  rcases arguments with _ | ⟨first, _ | ⟨second, _ | ⟨third, rest⟩⟩⟩
  case cons.cons.cons =>
    have henough : ¬(first :: second :: third :: rest).length < tag.arity := by
      cases tag <;> simp only [ConditionTag.arity, List.length_cons] <;> omega
    simp only [henough, false_and, false_or]
    cases tag with
    | textMatch operator => exact expandArguments_textMatch_eq_error_iff
    | _ => exact iff_of_false nofun fun h => h.1
  all_goals cases tag <;> simp [expandArguments, ConditionTag.arity, BadOptions, eq_comm]

theorem escapes_of_expandArguments {tag : ConditionTag} {arguments : List Document}
    {fault : Fault} (h : expandArguments tag arguments = .error fault) :
    Reading.escapes fault := by
  rcases expandArguments_eq_error_iff.1 h with ⟨_, rfl⟩ | ⟨_, rfl⟩ <;> rfl

/-- A faulty field or operand among the parts of a condition. -/
def Faulty (entries : Entries) : ConditionTag → Prop
  | .comparison _ =>
      fieldLabel.Holds entries Field.Faulty ∨
        valueLabel.Holds entries (Bare OperandTag.ofName?)
  | .between =>
      fieldLabel.Holds entries Field.Faulty ∨
        lowerLabel.Holds entries (Bare OperandTag.ofName?) ∨
        upperLabel.Holds entries (Bare OperandTag.ofName?)
  | .textMatch _ =>
      fieldLabel.Holds entries Field.Faulty ∨
        valueLabel.Holds entries (Bare OperandTag.ofName?)
  | .segment => False

theorem readField_breaksIff (entries : Entries) :
    (readField entries).BreaksIff (fieldLabel.Holds entries Field.Faulty) :=
  .required fieldLabel entries Field.read_breaksIff

theorem readOperand_breaksIff (label : Label) (entries : Entries) :
    (readOperand label entries).BreaksIff (label.Holds entries (Bare OperandTag.ofName?)) :=
  .required label entries Operand.read_breaksIff

theorem readParts_breaksIff (tag : ConditionTag) (entries : Entries) :
    (readParts tag entries).BreaksIff (Faulty entries tag) := by
  cases tag with
  | comparison operator =>
      exact (((readField_breaksIff entries).map _).seq
        (readOperand_breaksIff valueLabel entries)).sealed _ _
  | between =>
      exact (((((readField_breaksIff entries).map _).seq
        (readOperand_breaksIff lowerLabel entries)).seq
        (readOperand_breaksIff upperLabel entries)).sealed _ _).congr or_assoc
  | textMatch operator =>
      have hcase : (caseLabel.optional entries true Reading.bool).BreaksIff False := by
        apply Reading.BreaksIff.never
        simp
      exact (((((readField_breaksIff entries).map _).seq
        (readOperand_breaksIff valueLabel entries)).seq hcase).sealed _ _).congr
        (by simp [Faulty])
  | segment =>
      apply Reading.BreaksIff.never
      simp [readParts]

end Condition

/-! ## Filters -/

namespace Filter

/-- What a filter is at its top. -/
inductive Shape where
  /-- A list whose head is no tag. -/
  | nameless
  /-- A list whose arguments cannot be told apart. -/
  | short
  | condition (tag : ConditionTag) (entries : Entries)
  | junction (children : List Document)
  | negation (child : Document)
  /-- Whatever else is rejected or empty. -/
  | other

def shape : Document → Shape
  | .list [] => .nameless
  | .list (head :: arguments) =>
      match headTag? FilterTag.ofName? head, arguments with
      | none, _ => .nameless
      | some (.condition tag), arguments =>
          match Condition.expandArguments tag arguments with
          | .ok parts => .condition tag (entriesOf parts)
          | .error _ => .short
      | some (.junction _), arguments => .junction arguments
      | some .negation, [] => .short
      | some .negation, child :: _ => .negation child
  | .object entries =>
      match tagOf? "op" FilterTag.ofName? entries with
      | none => .other
      | some (.condition tag) => .condition tag entries
      | some (.junction _) =>
          match Document.find? "clauses" entries with
          | some (.list children) => .junction children
          | _ => .other
      | some .negation =>
          match Document.find? "clause" entries with
          | some child => .negation child
          | none => .other
  | _ => .other

/-- A filter in which a list is met whose arguments cannot be told apart.  Of the children
of a junction, all are expanded before the first one is read. -/
inductive Faulty : Document → Prop
  | short {document : Document} (h : shape document = .short) : Faulty document
  | condition {document : Document} {tag : ConditionTag} {entries : Entries}
      (h : shape document = .condition tag entries) (hparts : Condition.Faulty entries tag) :
      Faulty document
  | expandedChild {document child : Document} {before after : List Document}
      (h : shape document = .junction (before ++ child :: after))
      (hbefore : ∀ other ∈ before, shape other ≠ .nameless) (hchild : shape child = .short) :
      Faulty document
  | readChild {document child : Document} {children : List Document}
      (h : shape document = .junction children)
      (hnamed : ∀ other ∈ children, shape other ≠ .nameless) (hmem : child ∈ children)
      (hchild : Faulty child) : Faulty document
  | negated {document child : Document} (h : shape document = .negation child)
      (hchild : Faulty child) : Faulty document

theorem faulty_iff (document : Document) : Faulty document ↔
    match shape document with
    | .short => True
    | .condition tag entries => Condition.Faulty entries tag
    | .junction children =>
        FaultyList (shape · = .nameless) (shape · = .short) Faulty children
    | .negation child => Faulty child
    | _ => False := by
  constructor
  · intro h
    cases h with
    | short h => simp only [h]
    | condition h hparts => simpa only [h] using hparts
    | expandedChild h hbefore hchild =>
        simp only [h]
        exact .inl ⟨_, _, _, rfl, hbefore, hchild⟩
    | readChild h hnamed hmem hchild =>
        simp only [h]
        exact .inr ⟨hnamed, _, hmem, hchild⟩
    | negated h hchild => simpa only [h] using hchild
  · intro h
    cases hshape : shape document with
    | nameless => simp only [hshape] at h
    | short => exact .short hshape
    | condition tag entries =>
        simp only [hshape] at h
        exact .condition hshape h
    | junction children =>
        simp only [hshape] at h
        rcases h with ⟨before, child, after, rfl, hbefore, hchild⟩ | ⟨hnamed, child, hmem, hchild⟩
        · exact .expandedChild hshape hbefore hchild
        · exact .readChild hshape hnamed hmem hchild
    | negation child =>
        simp only [hshape] at h
        exact .negated hshape h
    | other => simp only [hshape] at h

/-! ### Reading by shape -/

theorem formFault?_kinds (document : Document) :
    FaultKinds (formFault? document) (shape document = .nameless) (shape document = .short) := by
  rcases document with _ | _ | _ | _ | _ | _ | (_ | ⟨head, arguments⟩) | entries
  case list.nil => constructor <;> simp [formFault?, shape, Reading.escapes]
  case list.cons =>
    cases hhead : headTag? FilterTag.ofName? head with
    | none => constructor <;> simp [formFault?, shape, hhead, Reading.escapes]
    | some tag =>
        cases tag with
        | condition tag =>
            cases hparts : Condition.expandArguments tag arguments with
            | ok parts => constructor <;> simp [formFault?, shape, hhead, hparts]
            | error fault =>
                have hescapes := Condition.escapes_of_expandArguments hparts
                constructor <;> simp [formFault?, shape, hhead, hparts, hescapes]
        | junction operator => constructor <;> simp [formFault?, shape, hhead]
        | negation =>
            cases arguments <;> constructor <;>
              simp [formFault?, shape, hhead, Reading.escapes]
  case object =>
    have hform : shape (.object entries) ≠ .nameless ∧ shape (.object entries) ≠ .short := by
      rw [shape]
      split
      · simp
      · simp
      · split <;> simp
      · split <;> simp
    constructor
    · exact iff_of_false hform.1 (by simp [formFault?])
    · exact iff_of_false hform.2 (by simp [formFault?])
  all_goals constructor <;> simp [formFault?, shape]

theorem fault?_readClauses (entries : Entries) : (readClauses entries).fault? =
    (Document.find? "clauses" entries).bind fun document =>
      (readChildren document).located.fault? := by
  rw [readClauses_eq_optional, Reading.fault?_optional, clausesLabel, Label.find?_same,
    Option.bind_map]
  rfl

theorem fault?_readClause (entries : Entries) : (readClause entries).fault? =
    (Document.find? "clause" entries).bind fun document => (read document).located.fault? := by
  rw [readClause_eq_required, Reading.fault?_required, clauseLabel, Label.find?_same,
    Option.bind_map]
  rfl

/-- What a filter breaks off at, from what it is at its top. -/
theorem fault?_read (document : Document) :
    match shape document with
    | .nameless => ∃ fault, (read document).fault? = some fault ∧ Reading.escapes fault = false
    | .short => ∃ fault, (read document).fault? = some fault ∧ Reading.escapes fault
    | .condition tag entries =>
        (read document).fault? = (Condition.readParts tag entries).fault?
    | .junction children =>
        (read document).fault? = (gather children (readEach children)).located.fault?
    | .negation child => (read document).fault? = (read child).located.fault?
    | .other => (read document).fault? = none := by
  rcases document with _ | _ | _ | _ | _ | _ | (_ | ⟨head, arguments⟩) | entries
  case list.nil => simp [shape, read, Reading.escapes]
  case list.cons =>
    cases hhead : headTag? FilterTag.ofName? head with
    | none =>
        rw [read.eq_def]
        simp [shape, hhead, Reading.escapes]
    | some tag =>
        rw [read.eq_def]
        cases tag with
        | condition tag =>
            cases hparts : Condition.expandArguments tag arguments with
            | ok parts => simp [shape, hhead, hparts, Reading.ofExcept]
            | error fault =>
                have hescapes := Condition.escapes_of_expandArguments hparts
                simp [shape, hhead, hparts, Reading.ofExcept, Reading.andThen, hescapes]
        | junction operator => simp [shape, hhead]
        | negation => cases arguments <;> simp [shape, hhead, Reading.escapes]
  case object =>
    rw [read, shape]
    cases htag : tagOf? "op" FilterTag.ofName? entries with
    | none =>
        obtain ⟨cause, hrejected⟩ := Reading.tagged_of_tagOf?_eq_none htag
        rw [hrejected]
        rfl
    | some tag =>
        rw [Reading.tagged_of_tagOf? htag, Reading.ok_andThen]
        cases tag with
        | condition tag => simp
        | junction operator =>
            have hclauses := fault?_readClauses entries
            cases hfound : Document.find? "clauses" entries with
            | none => simp_all
            | some document => cases document <;> simp_all [readChildren]
        | negation =>
            have hclause := fault?_readClause entries
            cases hfound : Document.find? "clause" entries <;> simp_all
  all_goals simp [shape, read]

theorem escapes_of_ne_nameless {document : Document} (h : shape document ≠ .nameless) {fault : Fault}
    (hfault : (read document).fault? = some fault) : Reading.escapes fault := by
  have hread := fault?_read document
  cases hshape : shape document with
  | nameless => exact absurd hshape h
  | short =>
      simp only [hshape, hfault, Option.some.injEq] at hread
      obtain ⟨_, rfl, hescapes⟩ := hread
      exact hescapes
  | condition tag entries =>
      simp only [hshape] at hread
      exact (Condition.readParts_breaksIff tag entries).escapes_of_fault fault
        (hread.symm.trans hfault)
  | junction children =>
      simp only [hshape] at hread
      exact (Reading.BreaksIff.located _).escapes_of_fault fault (hread.symm.trans hfault)
  | negation child =>
      simp only [hshape] at hread
      exact (Reading.BreaksIff.located _).escapes_of_fault fault (hread.symm.trans hfault)
  | other =>
      simp only [hshape, hfault, reduceCtorEq] at hread

/-! ### Faults at any depth -/

theorem gather_breaksIff {children : List Document}
    (h : ∀ child ∈ children, (read child).located.BreaksIff (Faulty child)) :
    (gather children (readEach children)).located.BreaksIff
      (FaultyList (shape · = .nameless) (shape · = .short) Faulty children) := by
  apply faultyList_breaksIff formFault?_kinds
  · intro fault hfault
    rw [gather, hfault]
    rfl
  · intro hnone
    have hformed : children.findSome? formFault? = none := List.findSome?_eq_none_iff.2 hnone
    rw [gather, hformed, readEach_eq_map]
    apply Reading.BreaksIff.items
    intro child hmem
    have hnamed : shape child ≠ .nameless := by
      intro hnameless
      obtain ⟨_, hfault, _⟩ := (formFault?_kinds child).nameless_iff.1 hnameless
      rw [hnone child hmem] at hfault
      cases hfault
    exact (h child hmem).of_located fun _ => escapes_of_ne_nameless hnamed

theorem sizeOf_lt_of_find? {name : String} {entries : Entries} {document : Document}
    (h : Document.find? name entries = some document) :
    sizeOf document < sizeOf (Document.object entries) := by
  obtain ⟨⟨key, value⟩, hfound, rfl⟩ := Option.map_eq_some_iff.1 h
  have hentry := List.sizeOf_lt_of_mem (List.mem_of_find?_eq_some hfound)
  simp only [Prod.mk.sizeOf_spec, Document.object.sizeOf_spec] at hentry ⊢
  omega

/-- The children of a junction stand behind its tag, or in a list under their own name. -/
theorem children_of_shape {document : Document} {children : List Document}
    (h : shape document = .junction children) :
    (∃ head, document = .list (head :: children)) ∨
      ∃ entries, document = .object entries ∧
        Document.find? "clauses" entries = some (.list children) := by
  unfold shape at h
  split at h
  · exact nomatch h
  · split at h
    · exact nomatch h
    · split at h <;> exact nomatch h
    · cases h
      exact .inl ⟨_, rfl⟩
    · exact nomatch h
    · exact nomatch h
  · split at h
    · exact nomatch h
    · exact nomatch h
    · split at h
      · rename_i hfound
        cases h
        exact .inr ⟨_, rfl, hfound⟩
      · exact nomatch h
    · split at h <;> exact nomatch h
  · exact nomatch h

theorem child_of_shape {document child : Document} (h : shape document = .negation child) :
    (∃ head rest, document = .list (head :: child :: rest)) ∨
      ∃ entries, document = .object entries ∧
        Document.find? "clause" entries = some child := by
  unfold shape at h
  split at h
  · exact nomatch h
  · split at h
    · exact nomatch h
    · split at h <;> exact nomatch h
    · exact nomatch h
    · exact nomatch h
    · cases h
      exact .inl ⟨_, _, rfl⟩
  · split at h
    · exact nomatch h
    · exact nomatch h
    · split at h <;> exact nomatch h
    · split at h
      · rename_i hfound
        cases h
        exact .inr ⟨_, rfl, hfound⟩
      · exact nomatch h
  · exact nomatch h

theorem sizeOf_lt_of_junction {document child : Document} {children : List Document}
    (h : shape document = .junction children) (hmem : child ∈ children) :
    sizeOf child < sizeOf document := by
  have hchild := List.sizeOf_lt_of_mem hmem
  rcases children_of_shape h with ⟨head, rfl⟩ | ⟨entries, rfl, hfound⟩
  · simp only [Document.list.sizeOf_spec, List.cons.sizeOf_spec]
    omega
  · have hlist := sizeOf_lt_of_find? hfound
    simp only [Document.list.sizeOf_spec] at hlist
    omega

theorem sizeOf_lt_of_negation {document child : Document} (h : shape document = .negation child) :
    sizeOf child < sizeOf document := by
  rcases child_of_shape h with ⟨head, rest, rfl⟩ | ⟨entries, rfl, hfound⟩
  · simp only [Document.list.sizeOf_spec, List.cons.sizeOf_spec]
    omega
  · exact sizeOf_lt_of_find? hfound

/-- The induction is on the size of the document; what a filter is at its top says which
smaller documents it breaks off with. -/
theorem read_breaksIff (document : Document) :
    (read document).located.BreaksIff (Faulty document) := by
  induction hsize : sizeOf document using Nat.strongRecOn generalizing document with
  | ind size ih =>
      subst hsize
      have hread := fault?_read document
      apply Reading.BreaksIff.congr _ (faulty_iff document).symm
      cases hshape : shape document with
      | nameless =>
          simp only [hshape] at hread ⊢
          obtain ⟨fault, hfault, hescapes⟩ := hread
          apply Reading.BreaksIff.never
          rw [Reading.fault?_located, hfault, Option.filter_some, hescapes]
          rfl
      | short =>
          simp only [hshape] at hread ⊢
          exact (Reading.BreaksIff.located _).congr (iff_of_true hread trivial)
      | condition tag entries =>
          simp only [hshape] at hread ⊢
          exact ((Condition.readParts_breaksIff tag entries).of_fault?_eq hread).relocated
      | junction children =>
          simp only [hshape] at hread ⊢
          have hchildren := gather_breaksIff fun child hmem =>
            ih _ (sizeOf_lt_of_junction hshape hmem) child rfl
          exact (hchildren.of_fault?_eq hread).relocated
      | negation child =>
          simp only [hshape] at hread ⊢
          have hchild := ih _ (sizeOf_lt_of_negation hshape) child rfl
          exact (hchild.of_fault?_eq hread).relocated
      | other =>
          simp only [hshape] at hread ⊢
          exact (Reading.BreaksIff.never hread).relocated

end Filter

/-! ## Queries -/

namespace Query

/-- What is no collection, or has an item for which the expansion or the reading of all
items breaks off. -/
def FaultyCollection (nameless short faulty : Document → Prop) (document : Document) : Prop :=
  match collection document with
  | .ok items => FaultyList nameless short faulty items
  | .error _ => True

theorem eq_wrongType_of_collection {document : Document} {fault : Fault}
    (h : collection document = .error fault) : fault = .wrongType := by
  cases document <;> first | exact (Except.error.inj h).symm | exact nomatch h

/-- Expanding the items of a list ends at the first one that cannot be expanded. -/
theorem mapM_expand_eq_error_iff {expand : Document → Except Fault Document}
    {items : List Document} {fault : Fault} : items.mapM expand = .error fault ↔
      (items.findSome? fun item => expansionFault? (expand item)) = some fault := by
  induction items with
  | nil => exact iff_of_false nofun nofun
  | cons item items ih =>
      rw [List.mapM_cons, List.findSome?_cons]
      cases expand item with
      | error other =>
          constructor <;>
            · rintro ⟨⟩
              rfl
      | ok node =>
          change (items.mapM expand >>= fun nodes => pure (node :: nodes)) = .error fault ↔ _
          rw [Fallible.bind_eq_error_iff, ih]
          constructor
          · rintro (hrest | ⟨_, _, himpossible⟩)
            · exact hrest
            · exact nomatch himpossible
          · exact .inl

/-- Expanded items are read one by one. -/
theorem map_readNode_of_mapM {α : Type} {expand : Document → Except Fault Document}
    {readNode : Document → Reading α} {items nodes : List Document}
    (h : items.mapM expand = .ok nodes) : nodes.map readNode =
      items.map fun item => (Reading.ofExcept (expand item)).andThen readNode := by
  rw [Fallible.mapM_eq_ok_iff] at h
  induction h with
  | nil => rfl
  | cons hitem _ ih =>
      rw [List.map_cons, List.map_cons, ih, hitem]
      rfl

theorem readCollection_breaksIff {α : Type} {expand : Document → Except Fault Document}
    {readNode : Document → Reading α} {nameless short faulty : Document → Prop}
    (hkinds : ∀ item, FaultKinds (expansionFault? (expand item)) (nameless item) (short item))
    (hnode : ∀ item node, expand item = .ok node → (readNode node).BreaksIff (faulty item))
    (document : Document) : (readCollection expand readNode document).BreaksIff
      (FaultyCollection nameless short faulty document) := by
  unfold readCollection FaultyCollection
  cases hitems : collection document with
  | error fault =>
      obtain rfl := eq_wrongType_of_collection hitems
      exact (Reading.BreaksIff.located _).congr (iff_of_true ⟨_, rfl, rfl⟩ trivial)
  | ok items =>
      apply faultyList_breaksIff hkinds
      · intro fault hfault
        have hexpanded := mapM_expand_eq_error_iff.2 hfault
        change ((Reading.ofExcept (items.mapM expand)).andThen _).fault? = _
        rw [hexpanded]
        rfl
      · intro hnone
        have hexpands : ∀ item ∈ items, ∃ node, expand item = .ok node := by
          intro item hitem
          have hfault := hnone item hitem
          cases hexpand : expand item with
          | ok node => exact ⟨node, rfl⟩
          | error fault =>
              rw [hexpand] at hfault
              exact nomatch hfault
        obtain ⟨nodes, hnodes⟩ := Fallible.exists_ok_mapM hexpands
        change ((Reading.ofExcept (items.mapM expand)).andThen _).BreaksIff _
        rw [hnodes, Reading.ofExcept, Reading.ok_andThen, map_readNode_of_mapM hnodes]
        apply Reading.BreaksIff.items
        intro item hitem
        obtain ⟨node, hexpand⟩ := hexpands item hitem
        rw [hexpand]
        exact hnode item node hexpand

/-- A query one of whose collections or whose filter is faulty. -/
inductive Faulty : Document → Prop
  | aggregation {entries : Entries}
      (h : aggregationLabel.Holds entries (FaultyCollection (Nameless AggregationTag.ofName?)
        (Bare AggregationTag.ofName?) fun _ => False)) : Faulty (.object entries)
  | breakout {entries : Entries}
      (h : breakoutLabel.Holds entries
        (FaultyCollection Field.Unnamed Field.Short Field.InnerShort)) :
      Faulty (.object entries)
  | filter {entries : Entries} (h : filterLabel.Holds entries Filter.Faulty) :
      Faulty (.object entries)
  | orders {entries : Entries}
      (h : orderLabel.Holds entries
        (FaultyCollection Order.NoPair (fun _ => False) Order.Faulty)) :
      Faulty (.object entries)

theorem readFilter_breaksIff (document : Document) :
    (Filter.readOptional document).located.BreaksIff (Filter.Faulty document) := by
  apply (Filter.read_breaksIff document).of_fault?_eq
  rw [Reading.fault?_located, Reading.fault?_located]
  unfold Filter.readOptional
  split
  · rfl
  · rfl
  · rw [Reading.map_eq_map, Reading.fault?_map]

theorem read_breaksIff (document : Document) : (read document).BreaksIff (Faulty document) := by
  cases document with
  | object entries =>
      have haggregations := Reading.BreaksIff.optional aggregationLabel entries []
        (readCollection_breaksIff Aggregation.faultKinds
          fun _ node _ => Aggregation.readNode_breaksIff node)
      have hbreakout := Reading.BreaksIff.optional breakoutLabel entries []
        (readCollection_breaksIff Field.faultKinds fun _ node hnode =>
          (Field.readNode_breaksIff node).congr (Field.innerShort_expanded_iff hnode))
      have hfilter := Reading.BreaksIff.optional filterLabel entries none readFilter_breaksIff
      have horders := Reading.BreaksIff.optional orderLabel entries []
        (readCollection_breaksIff Order.faultKinds
          fun _ _ hnode => Order.readNode_expanded_breaksIff hnode)
      have hsource : (sourceTableLabel.required entries Identifier.readNumberFirst).BreaksIff
          False := by
        apply Reading.BreaksIff.never
        simp
      have hlimit : (limitLabel.optional entries none (Reading.nullable Reading.int)).BreaksIff
          False := by
        apply Reading.BreaksIff.never
        have hnullable : ∀ document, (Reading.nullable Reading.int document).fault? = none :=
          fun document => Reading.fault?_nullable _ document Reading.fault?_int
        simp [hnullable]
      refine (((((((hsource.map Query.mk).seq haggregations).seq hbreakout).seq hfilter).seq
        horders).seq hlimit).sealed labels entries).congr ⟨?_, ?_⟩
      · rintro (((((himpossible | h) | h) | h) | h) | himpossible)
        · exact himpossible.elim
        · exact .aggregation h
        · exact .breakout h
        · exact .filter h
        · exact .orders h
        · exact himpossible.elim
      · rintro (h | h | h | h)
        · exact .inl (.inl (.inl (.inl (.inr h))))
        · exact .inl (.inl (.inl (.inr h)))
        · exact .inl (.inl (.inr h))
        · exact .inl (.inr h)
  | _ => exact (Reading.BreaksIff.never rfl).congr (iff_of_false id nofun)

/-- Reading a query ends with the query or with a list of issues, unless the query is
faulty. -/
theorem read_settles_iff (document : Document) :
    ((∃ query, read document = .ok query) ∨ ∃ issues, read document = .rejected issues) ↔
      ¬Faulty document := by
  rw [← Reading.fault?_eq_none_iff, ← (read_breaksIff document).breaks_iff, not_not]

/-- A comparison without a value is no issue of the query, but breaks the reading off. -/
theorem not_settled_short_comparison :
    let document : Document := .record [("source-table", .int 1),
      ("filter", .list [.text "=", .list [.text "field-literal", .text "ga:country"]])]
    read document = .broken .missingArgument ∧
      ¬∀ document, (∃ query, read document = .ok query) ∨
        ∃ issues, read document = .rejected issues := by
  intro document
  have hbroken : read document = .broken .missingArgument := by rfl
  refine ⟨hbroken, fun h => ?_⟩
  rcases h document with ⟨query, hread⟩ | ⟨issues, hread⟩
  · exact nomatch hbroken.symm.trans hread
  · exact nomatch hbroken.symm.trans hread

end Query

end AnalyticsQuery
