import AnalyticsQuery.Proofs.Form.Breaks
import AnalyticsQuery.Proofs.Form.Nodes

/-!
# Faults of fields, operands, aggregations and orders

A list is expanded before it is read.  One whose head names nothing is an issue of its
place; one that ends before its arguments breaks the whole reading off.  The predicates
below say which documents are of the one sort and which of the other, and where among the
parts of a node a list of the other sort is met.
-/

namespace AnalyticsQuery

open Document (Entries)

/-! ## Scalars -/

theorem Identifier.fault?_readAs (members : IssueCause → List Issue) (document : Document) :
    (readAs members document).fault? = none := by
  unfold readAs
  split
  · rfl
  · split <;> rfl

@[simp]
theorem Identifier.fault?_readNumberFirst (document : Document) :
    (readNumberFirst document).fault? = none := fault?_readAs _ document

@[simp]
theorem Identifier.fault?_readNameFirst (document : Document) :
    (readNameFirst document).fault? = none := fault?_readAs _ document

/-! ## Fields -/

namespace Field

/-- A list that ends before the field that it is about, perhaps as the base of others. -/
def Short : Document → Prop
  | .list [head] => headTag? FieldTag.ofName? head ≠ none
  | .list (head :: base :: _) => headTag? FieldTag.ofName? head = some .bucketed ∧ Short base
  | _ => False

/-- A list whose head is no tag, perhaps as the base of others. -/
def Unnamed : Document → Prop
  | .list [] => True
  | .list [head] => headTag? FieldTag.ofName? head = none
  | .list (head :: base :: _) => headTag? FieldTag.ofName? head = none ∨
      headTag? FieldTag.ofName? head = some .bucketed ∧ Unnamed base
  | _ => False

theorem faultKinds (document : Document) : FaultKinds (expansionFault? (expand document)) (Unnamed document)
      (Short document) := by
  induction document using expand.induct with
  | case1 => constructor <;> simp [expansionFault?, expand, Unnamed, Short, Reading.escapes]
  | case2 head arguments hhead =>
      cases arguments <;> constructor <;> simp [expansionFault?, expand, Unnamed, Short, hhead, Reading.escapes]
  | case3 head tag hhead => constructor <;> simp [expansionFault?, expand, Unnamed, Short, hhead, Reading.escapes]
  | case4 head number tail hhead => constructor <;> simp [expansionFault?, expand, Unnamed, Short, hhead]
  | case5 head name tail hhead => constructor <;> simp [expansionFault?, expand, Unnamed, Short, hhead]
  | case6 head base options hhead ih =>
      obtain ⟨hnameless, hshort⟩ := ih
      constructor
      · rw [expand.eq_6 _ _ _ hhead]
        cases hbase : expand base <;> simp [Unnamed, hhead, hnameless, hbase, Except.map, expansionFault?]
      · rw [expand.eq_6 _ _ _ hhead]
        cases hbase : expand base <;> simp [Short, hhead, hshort, hbase, Except.map, expansionFault?]
  | case7 document hempty hcons =>
      cases document with
      | list items =>
          cases items with
          | nil => exact absurd rfl hempty
          | cons head arguments => exact absurd rfl (hcons head arguments)
      | _ => constructor <;> simp [expansionFault?, expand, Unnamed, Short]

/-- Expanding once is enough. -/
theorem expand_expanded {document node : Document} (h : expand document = .ok node) :
    expand node = .ok node := by
  induction document using expand.induct generalizing node with
  | case1 => exact nomatch h
  | case2 head arguments hhead =>
      rw [expand.eq_2 _ _ hhead] at h
      exact nomatch h
  | case3 head tag hhead =>
      rw [expand.eq_3 _ _ hhead] at h
      exact nomatch h
  | case4 head number tail hhead =>
      rw [expand.eq_4 _ _ _ hhead] at h
      cases h
      rfl
  | case5 head name tail hhead =>
      rw [expand.eq_5 _ _ _ hhead] at h
      cases h
      rfl
  | case6 head base options hhead ih =>
      rw [expand.eq_6 _ _ _ hhead] at h
      cases hbase : expand base with
      | error fault =>
          rw [hbase] at h
          exact nomatch h
      | ok inner =>
          rw [hbase] at h
          cases h
          rfl
  | case7 document hempty hcons =>
      rw [expand.eq_7 _ hempty hcons] at h
      cases h
      exact expand.eq_7 _ hempty hcons

/-- A field that buckets something too short. -/
def InnerShort (document : Document) : Prop :=
  ∃ entries, document = .object entries ∧
    tagOf? "kind" FieldTag.ofName? entries = some .bucketed ∧ baseLabel.Holds entries Short

theorem plainField_readParts_breaksIff (tag : PlainFieldTag) (entries : Entries) :
    (PlainField.readParts tag entries).BreaksIff False := by
  apply Reading.BreaksIff.never
  cases tag <;> simp [PlainField.readParts]

theorem plainField_readNode_breaksIff (document : Document) :
    (PlainField.readNode document).BreaksIff False :=
  (Reading.BreaksIff.tagged plainField_readParts_breaksIff document).congr (by simp)

theorem readBase_breaksIff (document : Document) : (readBase document).BreaksIff (Short document) :=
  ((faultKinds document).breaksIff (fun node _ => plainField_readNode_breaksIff node) nofun).congr
    (by simp)

theorem readUnit_breaksIff (entries : Entries) : (readUnit entries).BreaksIff False := by
  apply Reading.BreaksIff.never
  simp [readUnit]

theorem readParts_breaksIff (tag : FieldTag) (entries : Entries) :
    (readParts tag entries).BreaksIff (tag = .bucketed ∧ baseLabel.Holds entries Short) := by
  cases tag with
  | plain tag => exact ((plainField_readParts_breaksIff tag entries).map plain).congr (by simp)
  | bucketed =>
      have hbase := Reading.BreaksIff.required baseLabel entries readBase_breaksIff
      exact (((hbase.map bucketed).seq (readUnit_breaksIff entries)).sealed _ _).congr (by simp)

theorem readNode_breaksIff (document : Document) :
    (readNode document).BreaksIff (InnerShort document) := by
  refine (Reading.BreaksIff.tagged readParts_breaksIff document).congr ?_
  unfold InnerShort
  constructor
  · rintro ⟨entries, _, rfl, htag, rfl, hbase⟩
    exact ⟨entries, rfl, htag, hbase⟩
  · rintro ⟨entries, rfl, htag, hbase⟩
    exact ⟨entries, _, rfl, htag, rfl, hbase⟩

/-- A list that is too short in the place of a field, or of the field that an object buckets. -/
def Faulty (document : Document) : Prop := Short document ∨ InnerShort document

/-- The base of an expanded list is expanded with it, and not too short any more. -/
theorem not_innerShort_of_expand {items : List Document} {node : Document}
    (h : expand (.list items) = .ok node) : ¬InnerShort node := by
  rintro ⟨entries, rfl, htag, name, inner, hfound, hinner⟩
  cases items with
  | nil => exact nomatch h
  | cons head arguments =>
      cases hhead : headTag? FieldTag.ofName? head with
      | none =>
          rw [expand.eq_2 _ _ hhead] at h
          exact nomatch h
      | some tag =>
          rcases arguments with _ | ⟨argument, options⟩
          · rw [expand.eq_3 _ _ hhead] at h
            exact nomatch h
          · cases tag with
            | plain tag =>
                have hkind : tagOf? "kind" FieldTag.ofName? entries = some (.plain tag) := by
                  cases tag with
                  | id =>
                      rw [expand.eq_4 _ _ _ hhead] at h
                      cases h
                      exact hhead
                  | literal =>
                      rw [expand.eq_5 _ _ _ hhead] at h
                      cases h
                      exact hhead
                rw [hkind] at htag
                exact nomatch htag
            | bucketed =>
                rw [expand.eq_6 _ _ _ hhead] at h
                cases hbase : expand argument with
                | error fault =>
                    rw [hbase] at h
                    exact nomatch h
                | ok base =>
                    rw [hbase] at h
                    cases h
                    obtain ⟨_, rfl⟩ := Prod.mk.inj (Option.some.inj hfound)
                    exact (faultKinds base).not_short_of_ok (expand_expanded hbase) hinner

theorem innerShort_expanded_iff {document node : Document} (h : expand document = .ok node) :
    InnerShort node ↔ InnerShort document := by
  cases document with
  | list items =>
      have hlist : ¬InnerShort (.list items) := by
        rintro ⟨_, ⟨⟩, _⟩
      exact iff_of_false (not_innerShort_of_expand h) hlist
  | _ =>
      cases h
      exact .rfl

theorem exists_expanded_of_innerShort {document : Document} (h : InnerShort document) :
    ∃ node, expand document = .ok node := by
  obtain ⟨entries, rfl, _⟩ := h
  exact ⟨_, rfl⟩

theorem read_breaksIff (document : Document) :
    (read document).located.BreaksIff (Faulty document) :=
  (faultKinds document).breaksIff
    (fun node hnode => (readNode_breaksIff node).congr (innerShort_expanded_iff hnode))
    exists_expanded_of_innerShort

end Field

/-! ## Operands -/

namespace Operand

/-- A list that starts with a tag needs an argument; every other list is a literal. -/
theorem faultKinds (document : Document) :
    FaultKinds (expansionFault? (expand document)) False (Bare OperandTag.ofName? document) := by
  rcases document with _ | _ | _ | _ | _ | _ | (_ | ⟨head, arguments⟩) | entries
  case list.cons =>
    cases hhead : headTag? OperandTag.ofName? head with
    | none => cases arguments <;> constructor <;> simp [expansionFault?, expand, hhead, Bare]
    | some tag =>
        rcases arguments with _ | ⟨argument, options⟩
        · constructor <;> simp [expansionFault?, expand, hhead, Bare, Reading.escapes]
        · cases tag <;> constructor <;> simp [expansionFault?, expand, hhead, Bare]
  all_goals constructor <;> simp [expansionFault?, expand, Bare]

theorem fault?_readTypeInfo (document : Document) : (readTypeInfo document).fault? = none := by
  cases document with
  | object entries =>
      rw [readTypeInfo]
      induction entries with
      | nil => rfl
      | cons entry entries ih =>
          rw [List.foldr_cons, Reading.fault?_seq, ih]
          simp [readKey]
  | _ => rfl

theorem readParts_breaksIff (tag : OperandTag) (entries : Entries) :
    (readParts tag entries).BreaksIff False := by
  apply Reading.BreaksIff.never
  cases tag with
  | literal =>
      have htypeInfo : ∀ document, (Reading.nullable readTypeInfo document).fault? = none :=
        fun document => Reading.fault?_nullable _ _ fault?_readTypeInfo
      simp [readParts, htypeInfo]
  | relative => simp [readParts, readUnit]
  | absolute => simp [readParts, readUnit]

theorem readNode_breaksIff (document : Document) : (readNode document).BreaksIff False :=
  (Reading.BreaksIff.tagged readParts_breaksIff document).congr (by simp)

theorem read_breaksIff (document : Document) :
    (read document).BreaksIff (Bare OperandTag.ofName? document) := by
  have hlocated : (read document).located.BreaksIff (Bare OperandTag.ofName? document) :=
    ((faultKinds document).breaksIff (fun node _ => readNode_breaksIff node) nofun).congr (by simp)
  apply hlocated.of_located
  intro fault hfault
  rw [read, Reading.fault?_andThen _ _ fun node => (readNode_breaksIff node).fault?_eq_none]
    at hfault
  cases hexpand : expand document with
  | ok node =>
      rw [hexpand] at hfault
      cases hfault
  | error other =>
      rw [hexpand] at hfault
      cases hfault
      have hkind : expansionFault? (expand document) = some fault := by
        rw [hexpand]
        rfl
      cases hescapes : Reading.escapes fault with
      | true => rfl
      | false => exact ((faultKinds document).nameless_iff.2 ⟨fault, hkind, hescapes⟩).elim

end Operand

/-! ## Aggregations -/

namespace Aggregation

theorem faultKinds (document : Document) : FaultKinds (expansionFault? (expand document))
    (Nameless AggregationTag.ofName? document) (Bare AggregationTag.ofName? document) := by
  rcases document with _ | _ | _ | _ | _ | _ | (_ | ⟨head, arguments⟩) | entries
  case list.nil => constructor <;> simp [expansionFault?, expand, Nameless, Bare, Reading.escapes]
  case list.cons =>
    cases hhead : headTag? AggregationTag.ofName? head with
    | none =>
        cases arguments <;> constructor <;> simp [expansionFault?, expand, hhead, Nameless, Bare, Reading.escapes]
    | some tag =>
        rcases arguments with _ | ⟨argument, options⟩
        · constructor <;> simp [expansionFault?, expand, hhead, Nameless, Bare, Reading.escapes]
        · cases tag <;> constructor <;> simp [expansionFault?, expand, hhead, Nameless, Bare]
  all_goals constructor <;> simp [expansionFault?, expand, Nameless, Bare]

theorem readIndex_breaksIff (entries : Entries) : (readIndex entries).BreaksIff False := by
  apply Reading.BreaksIff.never
  simp [readIndex]

theorem readNode_breaksIff (document : Document) : (readNode document).BreaksIff False := by
  have hparts : ∀ tag entries, (readParts tag entries).BreaksIff False := by
    intro tag entries
    cases tag with
    | metric =>
        apply Reading.BreaksIff.never
        simp [readParts]
    | reference => exact (readIndex_breaksIff entries).map reference
  exact (Reading.BreaksIff.tagged hparts document).congr (by simp)

end Aggregation

/-! ## Orders -/

theorem FieldTag.ofName?_eq_some_iff {name : String} {tag : FieldTag} :
    ofName? name = some tag ↔ tag.name = name := by
  constructor
  · intro h
    simpa using List.find?_some h
  · rintro rfl
    exact tag.ofName?_name

theorem OrderTargetTag.ofName?_eq_some_iff {name : String} {tag : OrderTargetTag} :
    ofName? name = some tag ↔ tag.name = name := by
  constructor
  · intro h
    simpa using List.find?_some h
  · rintro rfl
    exact tag.ofName?_name

/-- The tags of targets that are fields are those of fields. -/
theorem tagOf?_orderTarget_eq_some_field_iff {entries : Entries} {tag : FieldTag} :
    tagOf? "kind" OrderTargetTag.ofName? entries = some (.field tag) ↔
      tagOf? "kind" FieldTag.ofName? entries = some tag := by
  unfold tagOf?
  cases Document.find? "kind" entries with
  | none => simp
  | some head =>
      cases head with
      | text name =>
          simp only [Option.bind_some, headTag?, OrderTargetTag.ofName?_eq_some_iff,
            FieldTag.ofName?_eq_some_iff]
          rfl
      | _ => simp [headTag?]

namespace OrderTarget

/-- A target is a field or an aggregation. -/
def Faulty (document : Document) : Prop :=
  document = .list [.text "aggregation"] ∨ Field.Faulty document

theorem readNode_breaksIff (document : Document) :
    (readNode document).BreaksIff (Field.InnerShort document) := by
  have hparts : ∀ tag entries, (readParts tag entries).BreaksIff
      (tag = .field .bucketed ∧ Field.baseLabel.Holds entries Field.Short) := by
    intro tag entries
    cases tag with
    | field tag => exact ((Field.readParts_breaksIff tag entries).map field).congr (by simp)
    | aggregation =>
        exact ((Aggregation.readIndex_breaksIff entries).map aggregation).congr (by simp)
  refine (Reading.BreaksIff.tagged hparts document).congr ?_
  unfold Field.InnerShort
  constructor
  · rintro ⟨entries, _, rfl, htag, rfl, hbase⟩
    exact ⟨entries, rfl, tagOf?_orderTarget_eq_some_field_iff.1 htag, hbase⟩
  · rintro ⟨entries, rfl, htag, hbase⟩
    exact ⟨entries, _, rfl, tagOf?_orderTarget_eq_some_field_iff.2 htag, rfl, hbase⟩

theorem not_faulty_field_of_aggregation (arguments : List Document) :
    ¬Field.Faulty (.list (.text "aggregation" :: arguments)) := by
  have hhead : headTag? FieldTag.ofName? (.text "aggregation") = none := by decide
  rintro (hshort | ⟨_, ⟨⟩, _⟩)
  cases arguments with
  | nil => exact hshort hhead
  | cons argument arguments => exact nomatch hhead.symm.trans hshort.1

theorem read_aggregation_breaksIff (arguments : List Document) :
    (read (.list (.text "aggregation" :: arguments))).BreaksIff
      (Faulty (.list (.text "aggregation" :: arguments))) := by
  have hfield := not_faulty_field_of_aggregation arguments
  cases arguments with
  | nil =>
      constructor
      · exact iff_of_true (fun h => nomatch h) (.inl rfl)
      · rintro fault ⟨⟩
        rfl
  | cons index options =>
      have hinner : ¬Field.InnerShort (.record [("kind", .text "aggregation"), ("index", index)]) := by
        rintro ⟨entries, heq, htag, _⟩
        cases heq
        exact nomatch htag
      have hfaulty : ¬Faulty (.list (.text "aggregation" :: index :: options)) := by
        rintro (⟨⟨⟩⟩ | h)
        exact hfield h
      exact (readNode_breaksIff _).relocated.congr (iff_of_false hinner hfaulty)

theorem read_breaksIff (document : Document) : (read document).BreaksIff (Faulty document) := by
  cases hform : isAggregationForm document with
  | true =>
      unfold isAggregationForm at hform
      split at hform
      · exact read_aggregation_breaksIff _
      · cases hform
  | false =>
      have hexpand : expand document = Field.expand document := by
        rw [expand, hform]
        rfl
      have hlist : document ≠ .list [.text "aggregation"] := by
        rintro rfl
        cases hform
      have hfield := (Field.faultKinds document).breaksIff
        (fun node hnode => (readNode_breaksIff node).congr (Field.innerShort_expanded_iff hnode))
        Field.exists_expanded_of_innerShort
      rw [read, hexpand]
      exact hfield.congr (or_iff_right hlist).symm

end OrderTarget

namespace Order

/-- A pair or an object with a faulty target. -/
inductive Faulty : Document → Prop
  | pair {direction target : Document} (h : OrderTarget.Faulty target) :
      Faulty (.list [direction, target])
  | object {entries : Entries} (h : targetLabel.Holds entries OrderTarget.Faulty) :
      Faulty (.object entries)

/-- A list that is no pair. -/
def NoPair : Document → Prop
  | .list items => items.length ≠ 2
  | _ => False

theorem faultKinds (document : Document) :
    FaultKinds (expansionFault? (expand document)) (NoPair document) False := by
  rcases document with _ | _ | _ | _ | _ | _ | items | entries
  case list =>
    rcases items with _ | ⟨direction, _ | ⟨target, _ | ⟨third, rest⟩⟩⟩ <;>
      constructor <;> simp [expansionFault?, expand, NoPair, Reading.escapes]
  all_goals constructor <;> simp [expansionFault?, expand, NoPair]

theorem readParts_breaksIff (entries : Entries) :
    (readParts entries).BreaksIff (targetLabel.Holds entries OrderTarget.Faulty) := by
  have hdirection : (directionLabel.optional entries .ascending
      (Reading.choice Direction.ofName?)).BreaksIff False := by
    apply Reading.BreaksIff.never
    simp
  have htarget := Reading.BreaksIff.required targetLabel entries OrderTarget.read_breaksIff
  exact (((hdirection.map Order.mk).seq htarget).sealed _ _).congr (by simp)

theorem readNode_expanded_breaksIff {document node : Document} (h : expand document = .ok node) :
    (readNode node).BreaksIff (Faulty document) := by
  cases document with
  | list items =>
      rcases items with _ | ⟨direction, _ | ⟨target, _ | ⟨third, rest⟩⟩⟩
      · exact nomatch h
      · exact nomatch h
      · cases h
        refine (readParts_breaksIff _).congr ⟨?_, ?_⟩
        · rintro ⟨_, _, hfound, htarget⟩
          cases hfound
          exact .pair htarget
        · rintro ⟨htarget⟩
          exact ⟨_, _, rfl, htarget⟩
      · exact nomatch h
  | object entries =>
      cases h
      refine (readParts_breaksIff entries).congr ⟨.object, ?_⟩
      rintro ⟨htarget⟩
      assumption
  | _ =>
      cases h
      refine (Reading.BreaksIff.never rfl).congr (iff_of_false id ?_)
      exact nofun

end Order

end AnalyticsQuery
