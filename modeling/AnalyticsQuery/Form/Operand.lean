import AnalyticsQuery.Form.Field
import AnalyticsQuery.Query.Operand
import AnalyticsQuery.Reading.Timestamp

/-!
# Document form of operands

An operand is an object tagged by `kind`, or a list that starts with the tag.
Every other document stands for itself as a literal.
-/

namespace AnalyticsQuery

open Document (Entries Parts)

inductive OperandTag where
  | literal
  | relative
  | absolute
  deriving DecidableEq

namespace OperandTag

def all : List OperandTag := [literal, relative, absolute]

def name : OperandTag → String
  | literal => "value"
  | relative => "relative-datetime"
  | absolute => "absolute-datetime"

def ofName? (name : String) : Option OperandTag := all.find? (·.name = name)

end OperandTag

namespace Operand

def valueLabel : Label := .same "value"

def typeInfoLabel : Label := ⟨"type-info", "type_info"⟩

def amountLabel : Label := .same "amount"

def timestampLabel : Label := .same "timestamp"

def asLiteral (document : Document) : Document :=
  .record [("kind", .text "value"), ("value", document)]

/-- The object form of an operand. -/
def expand : Document → Except Fault Document
  | .object entries =>
      .ok (if (Document.find? "kind" entries).isSome then .object entries
        else asLiteral (.object entries))
  | .list [] => .ok (asLiteral (.list []))
  | .list (head :: arguments) =>
      match headTag? OperandTag.ofName? head, arguments with
      | none, _ => .ok (asLiteral (.list (head :: arguments)))
      | some _, [] => .error .missingArgument
      | some .literal, value :: options =>
          .ok (.record [("kind", head), ("value", value),
            ("type_info", options.head?.getD .null)])
      | some .relative, amount :: options =>
          .ok (.record [("kind", head), ("amount", amount),
            ("unit", options.head?.getD (unitDocument .default))])
      | some .absolute, timestamp :: options =>
          .ok (.record [("kind", head), ("timestamp", timestamp),
            ("unit", options.head?.getD (unitDocument .default))])
  | document => .ok (asLiteral document)

/-- A key of type information, which has to be a text. -/
def readKey (key : Document) : Reading String :=
  ((Reading.string key).under "[key]").under (Document.keyStep key)

def readTypeInfo : Document → Reading Parts
  | .object entries =>
      entries.foldr
        (fun (key, value) rest =>
          (fun name parts => (name, value) :: parts) <$> readKey key <*> rest)
        (.ok [])
  | _ => Reading.reject .dictType

def readParts (tag : OperandTag) (entries : Entries) : Reading Operand :=
  match tag with
  | .literal =>
      (literal <$> valueLabel.optional entries .null .ok
        <*> typeInfoLabel.optional entries none (Reading.nullable readTypeInfo)).sealed
        [kindLabel, valueLabel, typeInfoLabel] entries
  | .relative =>
      (relative <$> amountLabel.required entries Reading.int <*> readUnit entries).sealed
        [kindLabel, amountLabel, unitLabel] entries
  | .absolute =>
      (absolute <$> timestampLabel.required entries Reading.timestamp
        <*> readUnit entries).sealed
        [kindLabel, timestampLabel, unitLabel] entries

def readNode (document : Document) : Reading Operand :=
  (Reading.tagged "kind" OperandTag.ofName? document).andThen fun (tag, entries) =>
    (readParts tag entries).under tag.name

def read (document : Document) : Reading Operand :=
  (Reading.ofExcept (expand document)).andThen readNode

def toDocument : Operand → Document
  | literal value typeInfo =>
      .record (("kind", .text "value") :: Document.dropNulls
        [("value", value), ("type-info", typeInfo.elim .null .record)])
  | relative amount unit =>
      .record [("kind", .text "relative-datetime"), ("amount", .int amount),
        ("unit", unitDocument unit)]
  | absolute timestamp unit =>
      .record [("kind", .text "absolute-datetime"), ("timestamp", .timestamp timestamp),
        ("unit", unitDocument unit)]

/-- A literal stands for its value; what depends on the clock stays an operand. -/
def resolved : Operand → Document
  | literal value _ => value
  | operand => operand.toDocument

end Operand

end AnalyticsQuery
