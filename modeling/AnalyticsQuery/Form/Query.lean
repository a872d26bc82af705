import AnalyticsQuery.Form.Filter
import AnalyticsQuery.Query.Basic

/-!
# Document form of queries
-/

namespace AnalyticsQuery

open Document (Entries)

/-! ## Aggregations -/

inductive AggregationTag where
  | metric
  | reference
  deriving DecidableEq

namespace AggregationTag

def all : List AggregationTag := [metric, reference]

def name : AggregationTag → String
  | metric => "metric"
  | reference => "aggregation"

def ofName? (name : String) : Option AggregationTag := all.find? (·.name = name)

end AggregationTag

namespace Aggregation

def nameLabel : Label := .same "name"

def indexLabel : Label := .same "index"

/-- The object form of an aggregation given as a list. -/
def expand : Document → Except Fault Document
  | .list [] => .error (.malformed .emptyForm)
  | .list (head :: arguments) =>
      match headTag? AggregationTag.ofName? head, arguments with
      | none, _ => .error (.malformed (.unsupportedAggregation head))
      | some _, [] => .error .missingArgument
      | some .metric, name :: _ => .ok (.record [("kind", head), ("name", name)])
      | some .reference, index :: _ => .ok (.record [("kind", head), ("index", index)])
  | document => .ok document

def readIndex (entries : Entries) : Reading Int :=
  (indexLabel.required entries Reading.int).sealed [kindLabel, indexLabel] entries

def readParts (tag : AggregationTag) (entries : Entries) : Reading Aggregation :=
  match tag with
  | .metric =>
      (metric <$> nameLabel.required entries Identifier.readNameFirst).sealed
        [kindLabel, nameLabel] entries
  | .reference => reference <$> readIndex entries

def readNode (document : Document) : Reading Aggregation :=
  (Reading.tagged "kind" AggregationTag.ofName? document).andThen fun (tag, entries) =>
    (readParts tag entries).under tag.name

def indexDocument (index : Int) : Document :=
  .record [("kind", .text "aggregation"), ("index", .int index)]

def toDocument : Aggregation → Document
  | metric name => .record [("kind", .text "metric"), ("name", name.toDocument)]
  | reference index => indexDocument index

end Aggregation

/-! ## Orders -/

inductive OrderTargetTag where
  | field (tag : FieldTag)
  | aggregation
  deriving DecidableEq

namespace OrderTargetTag

def all : List OrderTargetTag := FieldTag.all.map field ++ [aggregation]

def name : OrderTargetTag → String
  | field tag => tag.name
  | aggregation => "aggregation"

def ofName? (name : String) : Option OrderTargetTag := all.find? (·.name = name)

end OrderTargetTag

namespace OrderTarget

def isAggregationForm : Document → Bool
  | .list (.text "aggregation" :: _) => true
  | _ => false

def expand (document : Document) : Except Fault Document :=
  if isAggregationForm document then Aggregation.expand document else Field.expand document

def readParts (tag : OrderTargetTag) (entries : Entries) : Reading OrderTarget :=
  match tag with
  | .field tag => field <$> Field.readParts tag entries
  | .aggregation => aggregation <$> Aggregation.readIndex entries

def readNode (document : Document) : Reading OrderTarget :=
  (Reading.tagged "kind" OrderTargetTag.ofName? document).andThen fun (tag, entries) =>
    (readParts tag entries).under tag.name

def read (document : Document) : Reading OrderTarget :=
  ((Reading.ofExcept (expand document)).andThen readNode).located

def toDocument : OrderTarget → Document
  | field reference => reference.toDocument
  | aggregation index => Aggregation.indexDocument index

end OrderTarget

namespace Order

def directionLabel : Label := .same "direction"

def targetLabel : Label := .same "target"

/-- The object form of an order given as a pair. -/
def expand : Document → Except Fault Document
  | .list [direction, target] =>
      .ok (.record [("direction", direction), ("target", target)])
  | .list items => .error (.malformed (.orderPair items.length))
  | document => .ok document

def readParts (entries : Entries) : Reading Order :=
  (Order.mk <$> directionLabel.optional entries .ascending (Reading.choice Direction.ofName?)
    <*> targetLabel.required entries OrderTarget.read).sealed
    [directionLabel, targetLabel] entries

def readNode (document : Document) : Reading Order :=
  (Reading.record document).andThen readParts

def toDocument (order : Order) : Document :=
  .record [("direction", .text order.direction.name), ("target", order.target.toDocument)]

end Order

/-! ## Queries -/

namespace Query

def sourceTableLabel : Label := ⟨"source-table", "source_table"⟩

def aggregationLabel : Label := .same "aggregation"

def breakoutLabel : Label := .same "breakout"

def filterLabel : Label := .same "filter"

def orderLabel : Label := ⟨"order-by", "order_by"⟩

def limitLabel : Label := .same "limit"

def labels : List Label :=
  [sourceTableLabel, aggregationLabel, breakoutLabel, filterLabel, orderLabel, limitLabel]

/-- The items of a collection: of a text its characters, of an object its keys. -/
def collection : Document → Except Fault (List Document)
  | .null => .ok []
  | .list items => .ok items
  | .text value => .ok (value.toList.map fun char => .text (String.singleton char))
  | .object entries => .ok (entries.map (·.1))
  | _ => .error .wrongType

/-- All items are expanded before the first one is read. -/
def readCollection {α : Type} (expand : Document → Except Fault Document)
    (readNode : Document → Reading α) (document : Document) : Reading (List α) :=
  ((Reading.ofExcept (collection document >>= fun items => items.mapM expand)).andThen
    fun nodes => Reading.items (nodes.map readNode)).located

def readParts (entries : Entries) : Reading Query :=
  (Query.mk <$> sourceTableLabel.required entries Identifier.readNumberFirst
    <*> aggregationLabel.optional entries []
      (readCollection Aggregation.expand Aggregation.readNode)
    <*> breakoutLabel.optional entries [] (readCollection Field.expand Field.readNode)
    <*> filterLabel.optional entries none
      (fun document => (Filter.readOptional document).located)
    <*> orderLabel.optional entries [] (readCollection Order.expand Order.readNode)
    <*> limitLabel.optional entries none (Reading.nullable Reading.int)).sealed
    labels entries

def read (document : Document) : Reading Query :=
  (Reading.record document).andThen readParts

def toDocument (query : Query) : Document :=
  .record (Document.dropNulls
    [("source-table", query.sourceTable.toDocument),
      ("aggregation", .list (query.aggregations.map Aggregation.toDocument)),
      ("breakout", .list (query.breakout.map Field.toDocument)),
      ("filter", query.filter.elim .null Filter.toDocument),
      ("order-by", .list (query.orders.map Order.toDocument)),
      ("limit", query.limit.elim .null .int)])

end Query

end AnalyticsQuery
