import AnalyticsQuery.Form.Query
import AnalyticsQuery.Proofs.Form.Given

/-!
# Two notations

A node can be written as a list that starts with its tag, or as an object one of whose
entries gives the tag.  The choice is made for every node anew, and in an object for every
entry between the two names of its part.  The relations below say which documents are a
node so written; that of the writer is one of them.
-/

namespace AnalyticsQuery

open Document (Entries Parts entriesOf)

/-- A tagged node with some parts, as a list or as an object. -/
inductive Tagged (label : Label) (tag : String) (parts : List (Label × Option Document)) :
    Document → Prop
  | list : Tagged label tag parts (.list (.text tag :: parts.filterMap Prod.snd))
  | object {entries : Entries} (h : Given ((label, some (.text tag)) :: parts) entries) :
      Tagged label tag parts (.object entries)

/-! ## Fields -/

inductive PlainField.Written : PlainField → Document → Prop
  | id {number : Int} {document : Document}
      (h : Tagged kindLabel "field-id" [(idLabel, some (.int number))] document) :
      Written (.id number) document
  | literal {name : String} {document : Document}
      (h : Tagged kindLabel "field-literal" [(nameLabel, some (.text name))] document) :
      Written (.literal name) document

inductive Field.Written : Field → Document → Prop
  | plain {field : PlainField} {document : Document} (h : field.Written document) :
      Written (.plain field) document
  | bucketed {field : PlainField} {unit : Calendar.CalendarUnit} {base document : Document}
      {part : Option Document} (hbase : field.Written base)
      (hunit : Optionally (· = unitDocument unit) (unit = .default) part)
      (h : Tagged kindLabel "datetime-field" [(baseLabel, some base), (unitLabel, part)]
        document) :
      Written (.bucketed field unit) document

/-! ## Operands -/

/-- The null of a literal may be left out of its object, but not of its list. -/
inductive Operand.Written : Operand → Document → Prop
  | literal {value document : Document} {typeInfo : Option Parts} {part : Option Document}
      (hpart : Optionally (· = typeInfo.elim .null .record) (typeInfo = none) part)
      (h : Tagged kindLabel "value" [(valueLabel, some value), (typeInfoLabel, part)]
        document) :
      Written (.literal value typeInfo) document
  | literalNull {typeInfo : Option Parts} {part : Option Document} {entries : Entries}
      (hpart : Optionally (· = typeInfo.elim .null .record) (typeInfo = none) part)
      (h : Given [(kindLabel, some (.text "value")), (valueLabel, none), (typeInfoLabel, part)]
        entries) :
      Written (.literal .null typeInfo) (.object entries)
  | relative {amount : Int} {unit : Calendar.CalendarUnit} {document : Document}
      {part : Option Document}
      (hunit : Optionally (· = unitDocument unit) (unit = .default) part)
      (h : Tagged kindLabel "relative-datetime" [(amountLabel, some (.int amount)),
        (unitLabel, part)] document) :
      Written (.relative amount unit) document
  /-- A moment is written in any of the ways in which moments are read. -/
  | absolute {timestamp : Calendar.Timestamp} {unit : Calendar.CalendarUnit}
      {moment document : Document} {part : Option Document}
      (hmoment : Reading.timestamp moment = .ok timestamp)
      (hunit : Optionally (· = unitDocument unit) (unit = .default) part)
      (h : Tagged kindLabel "absolute-datetime" [(timestampLabel, some moment),
        (unitLabel, part)] document) :
      Written (.absolute timestamp unit) document

/-! ## Filters -/

/-- The list of a text match has the option for case sensitivity in an object of its own. -/
inductive Condition.Written : Condition → Document → Prop
  | comparison {operator : Comparison} {field : Field} {value : Operand}
      {fieldDocument valueDocument document : Document}
      (hfield : field.Written fieldDocument) (hvalue : value.Written valueDocument)
      (h : Tagged operatorLabel operator.symbol
        [(fieldLabel, some fieldDocument), (valueLabel, some valueDocument)] document) :
      Written (.comparison operator field value) document
  | between {field : Field} {lower upper : Operand}
      {fieldDocument lowerDocument upperDocument document : Document}
      (hfield : field.Written fieldDocument) (hlower : lower.Written lowerDocument)
      (hupper : upper.Written upperDocument)
      (h : Tagged operatorLabel "between" [(fieldLabel, some fieldDocument),
        (lowerLabel, some lowerDocument), (upperLabel, some upperDocument)] document) :
      Written (.between field lower upper) document
  | textMatchShort {operator : TextMatch} {field : Field} {value : Operand}
      {fieldDocument valueDocument : Document}
      (hfield : field.Written fieldDocument) (hvalue : value.Written valueDocument) :
      Written (.textMatch operator field value true)
        (.list [.text operator.symbol, fieldDocument, valueDocument])
  | textMatchList {operator : TextMatch} {field : Field} {value : Operand}
      {caseSensitive : Bool} {fieldDocument valueDocument : Document}
      {part : Option Document} {options : Entries}
      (hfield : field.Written fieldDocument) (hvalue : value.Written valueDocument)
      (hcase : Optionally (· = .bool caseSensitive) (caseSensitive = true) part)
      (h : Given [(caseLabel, part)] options) :
      Written (.textMatch operator field value caseSensitive)
        (.list [.text operator.symbol, fieldDocument, valueDocument, .object options])
  | textMatchObject {operator : TextMatch} {field : Field} {value : Operand}
      {caseSensitive : Bool} {fieldDocument valueDocument : Document}
      {part : Option Document} {entries : Entries}
      (hfield : field.Written fieldDocument) (hvalue : value.Written valueDocument)
      (hcase : Optionally (· = .bool caseSensitive) (caseSensitive = true) part)
      (h : Given [(operatorLabel, some (.text operator.symbol)),
        (fieldLabel, some fieldDocument), (valueLabel, some valueDocument), (caseLabel, part)]
        entries) :
      Written (.textMatch operator field value caseSensitive) (.object entries)
  | segment {id : Identifier} {document : Document}
      (h : Tagged operatorLabel "segment" [(segmentLabel, some id.toDocument)] document) :
      Written (.segment id) document

/-- The children of a junction come with the documents that are written for them; its list
has these one after another, its object has them in a list of their own. -/
inductive Filter.Written : Filter → Document → Prop
  | condition {leaf : Condition} {document : Document} (h : leaf.Written document) :
      Written (.condition leaf) document
  | junctionList {operator : Junction} (children : List (Filter × Document))
      (hchildren : ∀ child ∈ children, Written child.1 child.2) :
      Written (.junction operator (children.map Prod.fst))
        (.list (.text operator.symbol :: children.map Prod.snd))
  | junctionObject {operator : Junction} (children : List (Filter × Document))
      {part : Option Document} {entries : Entries}
      (hchildren : ∀ child ∈ children, Written child.1 child.2)
      (hpart : Optionally (· = .list (children.map Prod.snd)) (children = []) part)
      (h : Given [(operatorLabel, some (.text operator.symbol)), (clausesLabel, part)]
        entries) :
      Written (.junction operator (children.map Prod.fst)) (.object entries)
  | negation {child : Filter} {clause document : Document} (hchild : Written child clause)
      (h : Tagged operatorLabel "not" [(clauseLabel, some clause)] document) :
      Written (.negation child) document

/-- No filter is written as null or true. -/
inductive Filter.WrittenOptional : Option Filter → Document → Prop
  | null : WrittenOptional none .null
  | always : WrittenOptional none (.bool true)
  | filter {filter : Filter} {document : Document} (h : filter.Written document) :
      WrittenOptional (some filter) document

/-! ## Queries -/

inductive Aggregation.Written : Aggregation → Document → Prop
  | metric {name : Identifier} {document : Document}
      (h : Tagged kindLabel "metric" [(nameLabel, some name.toDocument)] document) :
      Written (.metric name) document
  | reference {index : Int} {document : Document}
      (h : Tagged kindLabel "aggregation" [(indexLabel, some (.int index))] document) :
      Written (.reference index) document

inductive OrderTarget.Written : OrderTarget → Document → Prop
  | field {field : Field} {document : Document} (h : field.Written document) :
      Written (.field field) document
  | aggregation {index : Int} {document : Document}
      (h : Tagged kindLabel "aggregation" [(Aggregation.indexLabel, some (.int index))]
        document) :
      Written (.aggregation index) document

/-- Orders have no tag; their list is a pair. -/
inductive Order.Written : Order → Document → Prop
  | list {direction : Direction} {target : OrderTarget} {document : Document}
      (htarget : target.Written document) :
      Written ⟨direction, target⟩ (.list [.text direction.name, document])
  | object {direction : Direction} {target : OrderTarget} {document : Document}
      {part : Option Document} {entries : Entries} (htarget : target.Written document)
      (hdirection : Optionally (· = .text direction.name) (direction = .ascending) part)
      (h : Given [(directionLabel, part), (targetLabel, some document)] entries) :
      Written ⟨direction, target⟩ (.object entries)

/-- A list of nodes, each written as its own document; an empty one also as null. -/
inductive WrittenList {α : Type} (written : α → Document → Prop) : List α → Document → Prop
  | null : WrittenList written [] .null
  | items (nodes : List (α × Document)) (h : ∀ node ∈ nodes, written node.1 node.2) :
      WrittenList written (nodes.map Prod.fst) (.list (nodes.map Prod.snd))

/-- Queries have no tag and are always objects. -/
inductive Query.Written : Query → Document → Prop
  | object {query : Query} {aggregations breakout filter orders limit : Option Document}
      {entries : Entries}
      (haggregations : Optionally (WrittenList Aggregation.Written query.aggregations)
        (query.aggregations = []) aggregations)
      (hbreakout : Optionally (WrittenList Field.Written query.breakout)
        (query.breakout = []) breakout)
      (hfilter : Optionally (Filter.WrittenOptional query.filter) (query.filter = none) filter)
      (horders : Optionally (WrittenList Order.Written query.orders) (query.orders = []) orders)
      (hlimit : Optionally (· = query.limit.elim .null .int) (query.limit = none) limit)
      (h : Given [(sourceTableLabel, some query.sourceTable.toDocument),
        (aggregationLabel, aggregations), (breakoutLabel, breakout), (filterLabel, filter),
        (orderLabel, orders), (limitLabel, limit)] entries) :
      Written query (.object entries)

end AnalyticsQuery
