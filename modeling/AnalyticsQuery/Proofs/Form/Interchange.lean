import AnalyticsQuery.Proofs.Filter.Tree
import AnalyticsQuery.Proofs.Form.Nodes

/-!
# The notations are interchangeable

Filters and queries are read from whatever was written for them, at every nesting and for
every mixture of the two notations.  In the list of a condition the parts stand without its
tag, in its object with it; the readers of the parts do not see the difference.
-/

namespace AnalyticsQuery

open Document (Entries Parts entriesOf)

/-! ## Conditions -/

namespace Condition

variable {condition : Condition} {field : Field} {value : Operand}
  {fieldDocument valueDocument document : Document} {entries : Entries} {kind : Option Document}

theorem apart_comparison :
    [operatorLabel, fieldLabel, valueLabel].Pairwise Label.Apart := by decide

theorem apart_between :
    [operatorLabel, fieldLabel, lowerLabel, upperLabel].Pairwise Label.Apart := by decide

theorem apart_textMatch :
    [operatorLabel, fieldLabel, valueLabel, caseLabel].Pairwise Label.Apart := by decide

theorem apart_segment : [operatorLabel, segmentLabel].Pairwise Label.Apart := by decide

section Parts

variable {parts : List (Label × Option Document)} {label : Label}

theorem readField_of_given (h : Given parts entries)
    (hapart : (parts.map Prod.fst).Pairwise Label.Apart)
    (hpart : (fieldLabel, some document) ∈ parts) (hfield : field.Written document) :
    readField entries = .ok field := by
  apply h.required hapart hpart
  rw [Field.read_of_written hfield, Reading.located_ok]

theorem readOperand_of_given (h : Given parts entries)
    (hapart : (parts.map Prod.fst).Pairwise Label.Apart)
    (hpart : (label, some document) ∈ parts) (hvalue : value.Written document) :
    readOperand label entries = .ok value :=
  h.required hapart hpart (Operand.read_of_written hvalue)

end Parts

theorem readParts_comparison {operator : Comparison} (hfield : field.Written fieldDocument)
    (hvalue : value.Written valueDocument)
    (h : Given [(operatorLabel, kind), (fieldLabel, some fieldDocument),
      (valueLabel, some valueDocument)] entries) :
    readParts (.comparison operator) entries = .ok (comparison operator field value) := by
  rw [readParts, readField_of_given h apart_comparison (by simp) hfield,
    readOperand_of_given h apart_comparison (by simp) hvalue]
  exact h.sealed apart_comparison _

theorem readParts_between {lower upper : Operand} {lowerDocument upperDocument : Document}
    (hfield : field.Written fieldDocument) (hlower : lower.Written lowerDocument)
    (hupper : upper.Written upperDocument)
    (h : Given [(operatorLabel, kind), (fieldLabel, some fieldDocument),
      (lowerLabel, some lowerDocument), (upperLabel, some upperDocument)] entries) :
    readParts .between entries = .ok (between field lower upper) := by
  rw [readParts, readField_of_given h apart_between (by simp) hfield,
    readOperand_of_given h apart_between (by simp) hlower,
    readOperand_of_given h apart_between (by simp) hupper]
  exact h.sealed apart_between _

theorem readParts_textMatch {operator : TextMatch} {caseSensitive : Bool}
    {part : Option Document} (hfield : field.Written fieldDocument)
    (hvalue : value.Written valueDocument)
    (hcase : Optionally (· = .bool caseSensitive) (caseSensitive = true) part)
    (h : Given [(operatorLabel, kind), (fieldLabel, some fieldDocument),
      (valueLabel, some valueDocument), (caseLabel, part)] entries) :
    readParts (.textMatch operator) entries =
      .ok (textMatch operator field value caseSensitive) := by
  have hread : caseLabel.optional entries true Reading.bool = .ok caseSensitive := by
    apply h.optional apart_textMatch (by simp) hcase
    · rintro document rfl
      rfl
    · exact id
  rw [readParts, readField_of_given h apart_textMatch (by simp) hfield,
    readOperand_of_given h apart_textMatch (by simp) hvalue, hread]
  exact h.sealed apart_textMatch _

theorem readParts_segment {id : Identifier}
    (h : Given [(operatorLabel, kind), (segmentLabel, some id.toDocument)] entries) :
    readParts .segment entries = .ok (segment id) := by
  rw [readParts, h.required apart_segment (by simp) id.readNumberFirst_toDocument]
  exact h.sealed apart_segment _

theorem exists_tag_of_written (h : condition.Written (.object entries)) :
    ∃ tag : ConditionTag, Document.find? "op" entries = some (.text tag.name) ∧
      readParts tag entries = .ok condition := by
  cases h with
  | @comparison operator _ _ _ _ _ hfield hvalue h =>
      cases h with
      | object h =>
          exact ⟨.comparison operator, h.find?_tag apart_comparison,
            readParts_comparison hfield hvalue h⟩
  | between hfield hlower hupper h =>
      cases h with
      | object h =>
          exact ⟨.between, h.find?_tag apart_between, readParts_between hfield hlower hupper h⟩
  | @textMatchObject operator _ _ _ _ _ _ _ hfield hvalue hcase h =>
      exact ⟨.textMatch operator, h.find?_tag apart_textMatch,
        readParts_textMatch hfield hvalue hcase h⟩
  | segment h =>
      cases h with
      | object h => exact ⟨.segment, h.find?_tag apart_segment, readParts_segment h⟩

/-- The option for case sensitivity is found under either of its names. -/
theorem caseOption?_of_given {part : Option Document} {options : Entries}
    (h : Given [(caseLabel, part)] options) : caseOption? (.object options) = .ok part := by
  cases h with
  | part before after hname hothers =>
      obtain ⟨rfl, rfl⟩ := List.append_eq_nil_iff.1 hothers.eq_nil_of_nil
      rcases hname with rfl | rfl <;> rfl
  | leftOut hothers =>
      obtain rfl := hothers.eq_nil_of_nil
      rfl

theorem exists_arguments_of_written {items : List Document} (h : condition.Written (.list items)) :
    ∃ (tag : ConditionTag) (arguments : List Document) (parts : Parts),
      items = .text tag.name :: arguments ∧ expandArguments tag arguments = .ok parts ∧
        readParts tag (entriesOf parts) = .ok condition := by
  cases h with
  | @comparison operator _ _ _ _ _ hfield hvalue h =>
      cases h with
      | list =>
          exact ⟨.comparison operator, _, _, rfl, rfl, readParts_comparison hfield hvalue
            (.leftOut (.cons (.inl rfl) (.cons (.inl rfl) .nil)))⟩
  | between hfield hlower hupper h =>
      cases h with
      | list =>
          exact ⟨.between, _, _, rfl, rfl, readParts_between hfield hlower hupper
            (.leftOut (.cons (.inl rfl) (.cons (.inl rfl) (.cons (.inl rfl) .nil))))⟩
  | @textMatchShort operator _ _ _ _ hfield hvalue =>
      exact ⟨.textMatch operator, _, _, rfl, rfl, readParts_textMatch hfield hvalue (.leftOut rfl)
        (.leftOut (.cons (.inl rfl) (.cons (.inl rfl) (.leftOut .nil))))⟩
  | @textMatchList operator _ _ _ fieldDocument valueDocument part _ hfield hvalue hcase h =>
      have hoption := caseOption?_of_given h
      cases part with
      | none =>
          refine ⟨.textMatch operator, _, [("field", fieldDocument), ("value", valueDocument)],
            rfl, ?_, readParts_textMatch hfield hvalue hcase
              (.leftOut (.cons (.inl rfl) (.cons (.inl rfl) (.leftOut .nil))))⟩
          rw [expandArguments, hoption]
          rfl
      | some option =>
          refine ⟨.textMatch operator, _, [("field", fieldDocument), ("value", valueDocument),
            ("case_sensitive", option)], rfl, ?_, readParts_textMatch hfield hvalue hcase
              (.leftOut (.cons (.inl rfl) (.cons (.inl rfl) (.cons (.inr rfl) .nil))))⟩
          rw [expandArguments, hoption]
          rfl
  | segment h =>
      cases h with
      | list =>
          exact ⟨.segment, _, _, rfl, rfl, readParts_segment
            (.leftOut (.cons (.inr rfl) .nil))⟩

theorem written_toDocument (condition : Condition) : condition.Written condition.toDocument := by
  cases condition with
  | comparison operator field value =>
      exact .comparison field.written_toDocument value.written_toDocument
        (.object (.cons (.inl rfl) (.cons (.inl rfl) (.cons (.inl rfl) .nil))))
  | between field lower upper =>
      exact .between field.written_toDocument lower.written_toDocument upper.written_toDocument
        (.object (.cons (.inl rfl) (.cons (.inl rfl) (.cons (.inl rfl) (.cons (.inl rfl) .nil)))))
  | textMatch operator field value caseSensitive =>
      exact .textMatchObject field.written_toDocument value.written_toDocument (.given rfl)
        (.cons (.inl rfl) (.cons (.inl rfl) (.cons (.inl rfl) (.cons (.inl rfl) .nil))))
  | segment id => exact .segment (.object (.cons (.inl rfl) (.cons (.inl rfl) .nil)))

end Condition

/-! ## Filters -/

namespace Filter

variable {filter : Filter} {document : Document} {entries : Entries}

theorem readEach_eq_map (documents : List Document) :
    readEach documents = documents.map read := by
  induction documents with
  | nil => rfl
  | cons document documents ih => rw [readEach, ih, List.map_cons]

theorem readClauses_eq_optional (entries : Entries) :
    readClauses entries =
      clausesLabel.optional entries [] fun document => (readChildren document).located := by
  rw [Label.optional, clausesLabel, Label.find?_same]
  induction entries with
  | nil => rfl
  | cons entry entries ih =>
      obtain ⟨key, value⟩ := entry
      rw [readClauses, Document.find?_cons]
      split
      · rfl
      · exact ih

theorem readClause_eq_required (entries : Entries) :
    readClause entries =
      clauseLabel.required entries fun document => (read document).located := by
  rw [Label.required, clauseLabel, Label.find?_same]
  induction entries with
  | nil => rfl
  | cons entry entries ih =>
      obtain ⟨key, value⟩ := entry
      rw [readClause, Document.find?_cons]
      split
      · rfl
      · exact ih

/-- Reading of the entries of a filter by what its tag says it is. -/
def readTagged (entries : Entries) : FilterTag → Reading Filter
  | .condition tag => (condition <$> Condition.readParts tag entries).under tag.name
  | .junction operator =>
      ((junction operator <$> readClauses entries).sealed
        [operatorLabel, clausesLabel] entries).under operator.symbol
  | .negation =>
      ((negation <$> readClause entries).sealed
        [operatorLabel, clauseLabel] entries).under "not"

theorem read_object {tag : FilterTag}
    (hname : Document.find? "op" entries = some (.text tag.name)) :
    read (.object entries) = readTagged entries tag := by
  rw [read, Reading.tagged_of_find? hname tag.ofName?_name, Reading.ok_andThen]
  cases tag <;> rfl

theorem read_condition_list {tag : ConditionTag} {arguments : List Document} {parts : Parts}
    (hparts : Condition.expandArguments tag arguments = .ok parts) :
    read (.list (.text tag.name :: arguments)) =
      (condition <$> Condition.readParts tag (entriesOf parts)).under tag.name := by
  have hhead : headTag? FilterTag.ofName? (.text tag.name) = some (.condition tag) :=
    (FilterTag.condition tag).ofName?_name
  rw [read.eq_def]
  simp only [hhead, hparts, Reading.ofExcept, Reading.ok_andThen]

theorem read_junction_list (operator : Junction) (documents : List Document) :
    read (.list (.text operator.symbol :: documents)) =
      (junction operator <$>
        (gather documents (readEach documents)).located.under "clauses").under
        operator.symbol := by
  cases operator <;> rfl

theorem read_negation_list (document : Document) :
    read (.list [.text "not", document]) =
      (negation <$> (read document).located.under "clause").under "not" := rfl

/-- What is written for a filter is a list or an object. -/
theorem form_of_written (h : filter.Written document) :
    (∃ items, document = .list items) ∨ ∃ entries, document = .object entries := by
  cases h with
  | condition h =>
      cases h with
      | comparison hfield hvalue h => cases h <;> simp
      | between hfield hlower hupper h => cases h <;> simp
      | textMatchShort => simp
      | textMatchList => simp
      | textMatchObject => simp
      | segment h => cases h <;> simp
  | junctionList children hchildren => simp
  | junctionObject children hchildren hpart h => simp
  | negation hchild h => cases h <;> simp

theorem formFault?_of_written (h : filter.Written document) : formFault? document = none := by
  rcases form_of_written h with ⟨items, rfl⟩ | ⟨entries, rfl⟩
  · cases h with
    | condition h =>
        obtain ⟨tag, arguments, parts, rfl, hparts, _⟩ := Condition.exists_arguments_of_written h
        have hhead : headTag? FilterTag.ofName? (.text tag.name) = some (.condition tag) :=
          (FilterTag.condition tag).ofName?_name
        simp only [formFault?, hhead, hparts]
    | @junctionList operator => cases operator <;> rfl
    | negation hchild h =>
        cases h with
        | list => rfl
  · rfl

theorem gather_of_written {children : List (Filter × Document)}
    (hwritten : ∀ child ∈ children, Written child.1 child.2)
    (hread : ∀ child ∈ children, read child.2 = .ok child.1) :
    gather (children.map Prod.snd) (readEach (children.map Prod.snd)) =
      .ok (children.map Prod.fst) := by
  have hfault : (children.map Prod.snd).findSome? formFault? = none := by
    rw [List.findSome?_eq_none_iff]
    intro document hdocument
    obtain ⟨child, hchild, rfl⟩ := List.mem_map.1 hdocument
    exact formFault?_of_written (hwritten child hchild)
  have hreadings : (children.map Prod.snd).map read = (children.map Prod.fst).map .ok := by
    rw [List.map_map, List.map_map]
    exact List.map_congr_left hread
  rw [readEach_eq_map, gather, hfault, hreadings]
  exact Reading.items_ok _

theorem apart_junction : [operatorLabel, clausesLabel].Pairwise Label.Apart := by decide

theorem apart_negation : [operatorLabel, clauseLabel].Pairwise Label.Apart := by decide

theorem read_of_written (h : filter.Written document) : read document = .ok filter := by
  induction h with
  | @condition leaf document h =>
      rcases form_of_written (.condition h) with ⟨items, rfl⟩ | ⟨entries, rfl⟩
      · obtain ⟨tag, arguments, parts, rfl, hparts, hread⟩ :=
          Condition.exists_arguments_of_written h
        rw [read_condition_list hparts, hread]
        rfl
      · obtain ⟨tag, hname, hread⟩ := Condition.exists_tag_of_written h
        have hobject : read (.object entries) = readTagged entries (.condition tag) :=
          read_object hname
        rw [hobject, readTagged, hread]
        rfl
  | junctionList children hchildren ih =>
      rw [read_junction_list, gather_of_written hchildren ih]
      rfl
  | @junctionObject operator children part entries hchildren hpart h ih =>
      have hread : clausesLabel.optional entries []
          (fun document => (readChildren document).located) = .ok (children.map Prod.fst) := by
        apply h.optional apart_junction (by simp) hpart
        · rintro document rfl
          rw [readChildren, gather_of_written hchildren ih, Reading.located_ok]
        · rintro rfl
          rfl
      have hname : Document.find? "op" entries =
          some (.text (FilterTag.junction operator).name) := h.find?_tag apart_junction
      rw [read_object hname, readTagged, readClauses_eq_optional, hread]
      exact congrArg (Reading.under _) (h.sealed apart_junction _)
  | @negation child clause document hchild h ih =>
      cases h with
      | list =>
          change read (.list [.text "not", clause]) = _
          rw [read_negation_list, ih]
          rfl
      | @object entries h =>
          have hread : clauseLabel.required entries
              (fun document => (read document).located) = .ok child := by
            have hlocated : (read clause).located = .ok child := by
              rw [ih, Reading.located_ok]
            exact h.required apart_negation (by simp) hlocated
          have hname : Document.find? "op" entries = some (.text FilterTag.negation.name) :=
            h.find?_tag apart_negation
          rw [read_object hname, readTagged, readClause_eq_required, hread]
          exact congrArg (Reading.under _) (h.sealed apart_negation _)

theorem readOptional_of_written {filter : Option Filter} (h : WrittenOptional filter document) :
    readOptional document = .ok filter := by
  cases h with
  | null => rfl
  | always => rfl
  | filter h =>
      have hread : readOptional document = (read document).map some := by
        rcases form_of_written h with ⟨items, rfl⟩ | ⟨entries, rfl⟩ <;> rfl
      rw [hread, read_of_written h, Reading.map_ok]

theorem toDocuments_eq_map (children : List Filter) :
    toDocuments children = children.map toDocument := by
  induction children with
  | nil => rfl
  | cons child children ih => rw [toDocuments, ih, List.map_cons]

theorem written_toDocument (filter : Filter) : filter.Written filter.toDocument := by
  induction filter using treeInduction with
  | condition leaf => exact .condition leaf.written_toDocument
  | junction operator children ih =>
      have hwritten : Written (.junction operator _) (.record [("op", .text operator.symbol),
          ("clauses", .list _)]) :=
        .junctionObject (children.map fun child => (child, child.toDocument)) (by simpa using ih)
          (.given rfl) (.cons (.inl rfl) (.cons (.inl rfl) .nil))
      simp only [List.map_map, Function.comp_def, List.map_id'] at hwritten
      rw [toDocument, toDocuments_eq_map]
      exact hwritten
  | negation child ih => exact .negation ih (.object (.cons (.inl rfl) (.cons (.inl rfl) .nil)))

end Filter

/-! ## Queries -/

namespace Query

variable {query : Query} {document : Document}

/-- A collection is read, if every item is expanded into an object that is read. -/
theorem readCollection_of_written {α : Type} {expand : Document → Except Fault Document}
    {readNode : Document → Reading α} {written : α → Document → Prop} {values : List α}
    (hitem : ∀ value document, written value document →
      ∃ node, expand document = .ok node ∧ readNode node = .ok value)
    (h : WrittenList written values document) :
    readCollection expand readNode document = .ok values := by
  cases h with
  | null => rfl
  | items nodes h =>
      obtain ⟨expanded, hexpanded, hreadings⟩ : ∃ expanded,
          (nodes.map Prod.snd).mapM expand = .ok expanded ∧
            expanded.map readNode = (nodes.map Prod.fst).map .ok := by
        induction nodes with
        | nil => exact ⟨[], rfl, rfl⟩
        | cons node nodes ih =>
            obtain ⟨hnode, hnodes⟩ := List.forall_mem_cons.1 h
            obtain ⟨first, hfirst, hread⟩ := hitem _ _ hnode
            obtain ⟨rest, hrest, hreadings⟩ := ih hnodes
            refine ⟨first :: rest, ?_, ?_⟩
            · rw [List.map_cons, List.mapM_cons, hfirst, hrest]
              rfl
            · rw [List.map_cons, hread, hreadings]
              rfl
      have hcollection : (collection (.list (nodes.map Prod.snd)) >>= fun documents =>
          documents.mapM expand) = .ok expanded := hexpanded
      rw [readCollection, hcollection, Reading.ofExcept, Reading.ok_andThen, hreadings,
        Reading.items_ok, Reading.located_ok]

theorem apart_labels : labels.Pairwise Label.Apart := by decide

theorem read_of_written (h : query.Written document) : read document = .ok query := by
  cases h with
  | @object _ _ _ _ _ entries haggregations hbreakout hfilter horders hlimit h =>
      have hreadAggregations : aggregationLabel.optional entries []
          (readCollection Aggregation.expand Aggregation.readNode) = .ok query.aggregations := by
        apply h.optional apart_labels (by simp) haggregations
        · intro document hwritten
          apply readCollection_of_written _ hwritten
          intro aggregation document hnode
          obtain ⟨entries, hexpand, hnode⟩ := Aggregation.exists_entries_of_written hnode
          exact ⟨_, hexpand, Aggregation.readNode_of_written hnode⟩
        · exact id
      have hreadBreakout : breakoutLabel.optional entries []
          (readCollection Field.expand Field.readNode) = .ok query.breakout := by
        apply h.optional apart_labels (by simp) hbreakout
        · intro document hwritten
          apply readCollection_of_written _ hwritten
          intro field document hnode
          obtain ⟨entries, hexpand, hnode⟩ := Field.exists_entries_of_written hnode
          exact ⟨_, hexpand, Field.readNode_of_written hnode⟩
        · exact id
      have hreadFilter : filterLabel.optional entries none
          (fun document => (Filter.readOptional document).located) = .ok query.filter := by
        apply h.optional apart_labels (by simp) hfilter
        · intro document hwritten
          rw [Filter.readOptional_of_written hwritten, Reading.located_ok]
        · exact id
      have hreadOrders : orderLabel.optional entries []
          (readCollection Order.expand Order.readNode) = .ok query.orders := by
        apply h.optional apart_labels (by simp) horders
        · intro document hwritten
          apply readCollection_of_written _ hwritten
          intro order document hnode
          obtain ⟨entries, hexpand, hnode⟩ := Order.exists_entries_of_written hnode
          exact ⟨_, hexpand, Order.readNode_of_written hnode⟩
        · exact id
      have hreadLimit : limitLabel.optional entries none (Reading.nullable Reading.int) =
          .ok query.limit := by
        apply h.optional apart_labels (by simp) hlimit
        · rintro document rfl
          cases query.limit <;> rfl
        · exact id
      change readParts entries = _
      rw [readParts, h.required apart_labels (by simp) query.sourceTable.readNumberFirst_toDocument,
        hreadAggregations, hreadBreakout, hreadFilter, hreadOrders, hreadLimit]
      exact h.sealed apart_labels _

theorem writtenList_map {α : Type} {written : α → Document → Prop} {toDocument : α → Document}
    (h : ∀ value, written value (toDocument value)) (values : List α) :
    WrittenList written values (.list (values.map toDocument)) := by
  have hitems : WrittenList written _ _ :=
    .items (values.map fun value => (value, toDocument value))
      (by simpa using fun value _ => h value)
  simpa [Function.comp_def] using hitems

theorem written_toDocument (query : Query) : query.Written query.toDocument := by
  have hgiven := Given.entriesOf_dropNulls
    [(sourceTableLabel, query.sourceTable.toDocument),
      (aggregationLabel, .list (query.aggregations.map Aggregation.toDocument)),
      (breakoutLabel, .list (query.breakout.map Field.toDocument)),
      (filterLabel, query.filter.elim .null Filter.toDocument),
      (orderLabel, .list (query.orders.map Order.toDocument)),
      (limitLabel, query.limit.elim .null .int)]
  have hsource : query.sourceTable.toDocument.unlessNull = some query.sourceTable.toDocument := by
    cases query.sourceTable <;> rfl
  simp only [List.map_cons, List.map_nil, hsource] at hgiven
  refine .object (.given (writtenList_map Aggregation.written_toDocument _))
    (.given (writtenList_map Field.written_toDocument _)) ?_
    (.given (writtenList_map Order.written_toDocument _))
    (.elim_unlessNull (by simp) query.limit) hgiven
  cases query.filter with
  | none => exact .leftOut rfl
  | some filter =>
      have hwritten := filter.written_toDocument
      have hnull : filter.toDocument ≠ .null := by
        rcases Filter.form_of_written hwritten with ⟨_, heq⟩ | ⟨_, heq⟩ <;> simp [heq]
      rw [Option.elim_some, Document.unlessNull_of_ne_null hnull]
      exact .given (.filter hwritten)

end Query

/-- Whatever is written for a node, in any mixture of the two notations and with any choice
between the names of its parts, is read as that node; and something is written for every
query. -/
theorem read_written_families :
    (∀ (field : Field) (document : Document),
      field.Written document → Field.read document = .ok field) ∧
    (∀ (operand : Operand) (document : Document),
      operand.Written document → Operand.read document = .ok operand) ∧
    (∀ (filter : Filter) (document : Document),
      filter.Written document → Filter.read document = .ok filter) ∧
    (∀ (filter : Option Filter) (document : Document),
      Filter.WrittenOptional filter document → Filter.readOptional document = .ok filter) ∧
    (∀ (query : Query) (document : Document),
      query.Written document → Query.read document = .ok query) ∧
    ∀ query : Query, query.Written query.toDocument :=
  ⟨fun _ _ => Field.read_of_written, fun _ _ => Operand.read_of_written,
    fun _ _ => Filter.read_of_written, fun _ _ => Filter.readOptional_of_written,
    fun _ _ => Query.read_of_written, Query.written_toDocument⟩

/-- Lists in objects and objects in lists, with the parts out of order and the names mixed. -/
theorem read_written_families_mixed :
    let base : Document := .record [("field_id", .int 7), ("kind", .text "field-id")]
    let yesterday : Document := .list [.text "relative-datetime", .int (-1), .text "day"]
    let since : Document := .record [("value", yesterday), ("op", .text ">="),
      ("field", .list [.text "datetime-field", base])]
    let value : Document := .record [("type_info", .null), ("kind", .text "value"),
      ("value", .list [.text "value"])]
    let named : Document := .list [.text "contains", .list [.text "field-literal", .text "ga:a"],
      value, .record [("case_sensitive", .bool false)]]
    let either : Document := .record [("clauses", .list [since, named]), ("op", .text "or")]
    let document : Document := .record
      [("order_by", .list [.list [.text "desc", .list [.text "aggregation", .int 0]]]),
        ("filter", .list [.text "not", either]),
        ("aggregation", .list [.record [("name", .text "ga:hits"), ("kind", .text "metric")]]),
        ("source-table", .int 1), ("breakout", .null)]
    let query : Query :=
      { sourceTable := .number 1, aggregations := [.metric (.name "ga:hits")], breakout := []
        filter := some (.negation (.junction .or
          [.condition (.comparison .atLeast (.bucketed (.id 7) .default) (.relative (-1) .day)),
            .condition (.textMatch .contains (.plain (.literal "ga:a"))
              (.literal (.list [.text "value"]) none) false)]))
        orders := [⟨.descending, .aggregation 0⟩], limit := none }
    query.Written document ∧ Query.read document = .ok query := by
  intro base yesterday since value named either document query
  have hbase : PlainField.Written (.id 7) base :=
    .id (.object (.part [_] [] (.inl rfl) (.cons (.inr rfl) .nil)))
  have hyesterday : Operand.Written (.relative (-1) .day) yesterday :=
    .relative (.given rfl) .list
  have hsince : Filter.Written (.condition (.comparison .atLeast (.bucketed (.id 7) .default)
      (.relative (-1) .day))) since :=
    .condition (.comparison (.bucketed hbase (.leftOut rfl) .list) hyesterday
      (.object (.part [_] [_] (.inl rfl) (.part [_] [] (.inl rfl) (.cons (.inl rfl) .nil)))))
  have hvalue : Operand.Written (.literal (.list [.text "value"]) none) value :=
    .literal (.given rfl)
      (.object (.part [_] [_] (.inl rfl) (.part [_] [] (.inl rfl) (.cons (.inr rfl) .nil))))
  have hnamed : Filter.Written (.condition (.textMatch .contains (.plain (.literal "ga:a"))
      (.literal (.list [.text "value"]) none) false)) named :=
    .condition (.textMatchList (.plain (.literal .list)) hvalue (.given rfl)
      (.cons (.inr rfl) .nil))
  have heither : Filter.Written (.junction .or _) either :=
    .junctionObject [(_, since), (_, named)] (by simpa using ⟨hsince, hnamed⟩) (.given rfl)
      (.part [_] [] (.inl rfl) (.cons (.inl rfl) .nil))
  have haggregation : Aggregation.Written (.metric (.name "ga:hits"))
      (.record [("name", .text "ga:hits"), ("kind", .text "metric")]) :=
    .metric (.object (.part [_] [] (.inl rfl) (.cons (.inl rfl) .nil)))
  have horder : Order.Written ⟨.descending, .aggregation 0⟩
      (.list [.text "desc", .list [.text "aggregation", .int 0]]) :=
    .list (.aggregation .list)
  have hwritten : query.Written document := by
    refine .object (.given (.items [(_, _)] (by simpa using haggregation))) (.given .null)
      (.given (.filter (.negation heither .list)))
      (.given (.items [(_, _)] (by simpa using horder))) (.leftOut rfl) ?_
    exact .part [_, _, _] [_] (.inl rfl) (.part [_, _] [_] (.inl rfl) (.part [_, _] [] (.inl rfl)
      (.part [_] [] (.inl rfl) (.cons (.inr rfl) (.leftOut .nil)))))
  obtain ⟨_, _, _, _, hquery, _⟩ := read_written_families
  exact ⟨hwritten, hquery query document hwritten⟩

end AnalyticsQuery
