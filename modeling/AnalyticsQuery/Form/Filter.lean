import AnalyticsQuery.Form.Operand
import AnalyticsQuery.Query.Filter
import AnalyticsQuery.Text.Part

/-!
# Document form of filters

A filter is an object tagged by `op`, or a list that starts with the tag.  The
children of a junction are first checked one by one for a form that cannot be
expanded; only then are they read.
-/

namespace AnalyticsQuery

open Document (Entries Parts)

inductive ConditionTag where
  | comparison (operator : Comparison)
  | between
  | textMatch (operator : TextMatch)
  | segment
  deriving DecidableEq

namespace ConditionTag

def all : List ConditionTag :=
  Comparison.all.map comparison ++ [between] ++ TextMatch.all.map textMatch ++ [segment]

def name : ConditionTag → String
  | comparison operator => operator.symbol
  | between => "between"
  | textMatch operator => operator.symbol
  | segment => "segment"

end ConditionTag

inductive FilterTag where
  | condition (tag : ConditionTag)
  | junction (operator : Junction)
  | negation
  deriving DecidableEq

namespace FilterTag

def all : List FilterTag :=
  [junction .and, junction .or, negation] ++ ConditionTag.all.map condition

def name : FilterTag → String
  | condition tag => tag.name
  | junction operator => operator.symbol
  | negation => "not"

def ofName? (name : String) : Option FilterTag := all.find? (·.name = name)

theorem ofName?_name (tag : FilterTag) : ofName? tag.name = some tag := by
  cases tag with
  | condition tag =>
      cases tag with
      | comparison operator => cases operator <;> decide
      | between => decide
      | textMatch operator => cases operator <;> decide
      | segment => decide
  | junction operator => cases operator <;> decide
  | negation => decide

end FilterTag

def operatorLabel : Label := .same "op"

/-! ## Conditions -/

namespace Condition

def fieldLabel : Label := .same "field"

def valueLabel : Label := .same "value"

def lowerLabel : Label := .same "min"

def upperLabel : Label := .same "max"

def caseLabel : Label := ⟨"case-sensitive", "case_sensitive"⟩

def segmentLabel : Label := ⟨"segment-id", "segment_id"⟩

/-- Value of the option for case sensitivity; when both spellings are given, the
plain one counts.  A list or text is only searched for the name of the option. -/
def caseOption? : Document → Except Fault (Option Document)
  | .object entries =>
      .ok ((Document.find? caseLabel.plain entries).or (Document.find? caseLabel.wire entries))
  | .list items =>
      if .text caseLabel.wire ∈ items ∨ .text caseLabel.plain ∈ items then .error .wrongType
      else .ok none
  | .text value =>
      if Text.hasPart caseLabel.wire.toList value.toList ∨
          Text.hasPart caseLabel.plain.toList value.toList then .error .wrongType
      else .ok none
  | _ => .error .wrongType

/-- Named parts of a condition given as a list, without its head. -/
def expandArguments (tag : ConditionTag) (arguments : List Document) : Except Fault Parts :=
  match tag, arguments with
  | .comparison _, field :: value :: _ => .ok [("field", field), ("value", value)]
  | .between, field :: lower :: upper :: _ =>
      .ok [("field", field), ("min", lower), ("max", upper)]
  | .textMatch _, [field, value] => .ok [("field", field), ("value", value)]
  | .textMatch _, field :: value :: options :: _ => do
      match ← caseOption? options with
      | none => .ok [("field", field), ("value", value)]
      | some option => .ok [("field", field), ("value", value), ("case_sensitive", option)]
  | .segment, id :: _ => .ok [("segment_id", id)]
  | _, _ => .error .missingArgument

def readField (entries : Entries) : Reading Field :=
  fieldLabel.required entries fun document => (Field.read document).located

def readOperand (label : Label) (entries : Entries) : Reading Operand :=
  label.required entries Operand.read

def readParts (tag : ConditionTag) (entries : Entries) : Reading Condition :=
  match tag with
  | .comparison operator =>
      (comparison operator <$> readField entries <*> readOperand valueLabel entries).sealed
        [operatorLabel, fieldLabel, valueLabel] entries
  | .between =>
      (between <$> readField entries <*> readOperand lowerLabel entries
        <*> readOperand upperLabel entries).sealed
        [operatorLabel, fieldLabel, lowerLabel, upperLabel] entries
  | .textMatch operator =>
      (textMatch operator <$> readField entries <*> readOperand valueLabel entries
        <*> caseLabel.optional entries true Reading.bool).sealed
        [operatorLabel, fieldLabel, valueLabel, caseLabel] entries
  | .segment =>
      (segment <$> segmentLabel.required entries Identifier.readNumberFirst).sealed
        [operatorLabel, segmentLabel] entries

def toDocument (condition : Condition) : Document :=
  .record (("op", .text condition.symbol) ::
    match condition with
    | comparison _ field value =>
        [("field", field.toDocument), ("value", value.toDocument)]
    | between field lower upper =>
        [("field", field.toDocument), ("min", lower.toDocument), ("max", upper.toDocument)]
    | textMatch _ field value caseSensitive =>
        [("field", field.toDocument), ("value", value.toDocument),
          ("case-sensitive", .bool caseSensitive)]
    | segment id => [("segment-id", id.toDocument)])

end Condition

/-! ## Filters -/

namespace Filter

def clausesLabel : Label := .same "clauses"

def clauseLabel : Label := .same "clause"

/-- Why the list form of a filter cannot be expanded, without a look at its children. -/
def formFault? : Document → Option Fault
  | .list [] => some (.malformed .emptyForm)
  | .list (head :: arguments) =>
      match headTag? FilterTag.ofName? head with
      | none => some (.malformed (.unknownClause head))
      | some (.condition tag) =>
          match Condition.expandArguments tag arguments with
          | .ok _ => none
          | .error fault => some fault
      | some (.junction _) => none
      | some .negation => if arguments.isEmpty then some .missingArgument else none
  | _ => none

/-- Children of a junction, from their documents and readings. -/
def gather (documents : List Document) (readings : List (Reading Filter)) :
    Reading (List Filter) :=
  match documents.findSome? formFault? with
  | some fault => .broken fault
  | none => Reading.items readings

mutual

def read : Document → Reading Filter
  | .list [] => .broken (.malformed .emptyForm)
  | .list (head :: arguments) =>
      match headTag? FilterTag.ofName? head, arguments with
      | none, _ => .broken (.malformed (.unknownClause head))
      | some (.condition tag), arguments =>
          (Reading.ofExcept (Condition.expandArguments tag arguments)).andThen fun parts =>
            (condition <$> Condition.readParts tag (Document.entriesOf parts)).under tag.name
      | some (.junction operator), arguments =>
          (junction operator <$>
            (gather arguments (readEach arguments)).located.under "clauses").under
            operator.symbol
      | some .negation, [] => .broken .missingArgument
      | some .negation, child :: _ =>
          (negation <$> (read child).located.under "clause").under "not"
  | .object entries =>
      (Reading.tagged "op" FilterTag.ofName? (.object entries)).andThen fun (tag, _) =>
        match tag with
        | .condition tag => (condition <$> Condition.readParts tag entries).under tag.name
        | .junction operator =>
            ((junction operator <$> readClauses entries).sealed
              [operatorLabel, clausesLabel] entries).under operator.symbol
        | .negation =>
            ((negation <$> readClause entries).sealed
              [operatorLabel, clauseLabel] entries).under "not"
  | _ => Reading.reject .modelAttributesType

def readEach : List Document → List (Reading Filter)
  | [] => []
  | document :: documents => read document :: readEach documents

/-- The part `clauses` of a junction; it may be left out. -/
def readClauses : List (Document × Document) → Reading (List Filter)
  | [] => .ok []
  | (key, value) :: entries =>
      if key.isNamed "clauses" then (readChildren value).located.under "clauses"
      else readClauses entries

def readChildren : Document → Reading (List Filter)
  | .list documents => gather documents (readEach documents)
  | _ => Reading.reject .listType

/-- The part `clause` of a negation. -/
def readClause : List (Document × Document) → Reading Filter
  | [] => (Reading.reject .missing).under "clause"
  | (key, value) :: entries =>
      if key.isNamed "clause" then (read value).located.under "clause"
      else readClause entries

end

/-- Null and true stand for no filter. -/
def readOptional : Document → Reading (Option Filter)
  | .null => .ok none
  | .bool true => .ok none
  | document => some <$> read document

mutual

def toDocument : Filter → Document
  | condition leaf => leaf.toDocument
  | junction operator children =>
      .record [("op", .text operator.symbol), ("clauses", .list (toDocuments children))]
  | negation child => .record [("op", .text "not"), ("clause", toDocument child)]

def toDocuments : List Filter → List Document
  | [] => []
  | child :: children => toDocument child :: toDocuments children

end

end Filter

end AnalyticsQuery
