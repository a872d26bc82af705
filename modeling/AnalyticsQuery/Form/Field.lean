import AnalyticsQuery.Query.Field
import AnalyticsQuery.Reading.Record
import AnalyticsQuery.Reading.Scalar

/-!
# Document form of field references

A field reference is an object tagged by `kind`, or a list that starts with the
tag.  `expand` turns the list form into the object form, and `readNode` reads the
object form.
-/

namespace AnalyticsQuery

open Calendar (CalendarUnit)
open Document (Entries)

/-- A scalar under its wire name. -/
def Identifier.toDocument : Identifier → Document
  | number value => .int value
  | name value => .text value

/-- An integer or a text stays what it is; another value has to be readable as an
integer.  `members` orders the issues of a value that is neither. -/
def Identifier.readAs (members : IssueCause → List Issue) : Document → Reading Identifier
  | .text value => .ok (.name value)
  | document =>
      match Reading.intCause document with
      | .ok value => .ok (.number value)
      | .error cause => .rejected (members cause)

def Identifier.readNumberFirst : Document → Reading Identifier :=
  readAs fun cause => [⟨["int"], cause⟩, ⟨["str"], .stringType⟩]

def Identifier.readNameFirst : Document → Reading Identifier :=
  readAs fun cause => [⟨["str"], .stringType⟩, ⟨["int"], cause⟩]

def kindLabel : Label := .same "kind"

def unitLabel : Label := .same "unit"

/-- A unit may be left out, but not be null. -/
def readUnit (entries : Entries) : Reading CalendarUnit :=
  unitLabel.optional entries .default (Reading.choice CalendarUnit.ofName?)

def unitDocument (unit : CalendarUnit) : Document := .text unit.name

/-- Tag at the head of a list form. -/
def headTag? {Tag : Type} (tag? : String → Option Tag) : Document → Option Tag
  | .text name => tag? name
  | _ => none

/-! ## Plain fields -/

inductive PlainFieldTag where
  | id
  | literal
  deriving DecidableEq

namespace PlainFieldTag

def all : List PlainFieldTag := [id, literal]

def name : PlainFieldTag → String
  | id => "field-id"
  | literal => "field-literal"

def ofName? (name : String) : Option PlainFieldTag := all.find? (·.name = name)

end PlainFieldTag

namespace PlainField

def idLabel : Label := ⟨"field-id", "field_id"⟩

def nameLabel : Label := .same "name"

def readParts (tag : PlainFieldTag) (entries : Entries) : Reading PlainField :=
  match tag with
  | .id =>
      (id <$> idLabel.required entries Reading.int).sealed [kindLabel, idLabel] entries
  | .literal =>
      (literal <$> nameLabel.required entries Reading.string).sealed
        [kindLabel, nameLabel] entries

def readNode (document : Document) : Reading PlainField :=
  (Reading.tagged "kind" PlainFieldTag.ofName? document).andThen fun (tag, entries) =>
    (readParts tag entries).under tag.name

def toDocument : PlainField → Document
  | id number => .record [("kind", .text "field-id"), ("field-id", .int number)]
  | literal name => .record [("kind", .text "field-literal"), ("name", .text name)]

end PlainField

/-! ## Field references -/

inductive FieldTag where
  | plain (tag : PlainFieldTag)
  | bucketed
  deriving DecidableEq

namespace FieldTag

def all : List FieldTag := [plain .id, plain .literal, bucketed]

def name : FieldTag → String
  | plain tag => tag.name
  | bucketed => "datetime-field"

def ofName? (name : String) : Option FieldTag := all.find? (·.name = name)

end FieldTag

namespace Field

def baseLabel : Label := .same "field"

/-- The object form of a field given as a list; other documents stay as they are. -/
def expand : Document → Except Fault Document
  | .list [] => .error (.malformed .emptyForm)
  | .list (head :: arguments) =>
      match headTag? FieldTag.ofName? head, arguments with
      | none, _ => .error (.malformed (.unknownField head))
      | some _, [] => .error .missingArgument
      | some (.plain .id), number :: _ =>
          .ok (.record [("kind", head), ("field_id", number)])
      | some (.plain .literal), name :: _ =>
          .ok (.record [("kind", head), ("name", name)])
      | some .bucketed, field :: options =>
          (expand field).map fun field =>
            .record [("kind", head), ("field", field),
              ("unit", options.head?.getD (unitDocument .default))]
  | document => .ok document

/-- The field that a bucketed reference is about. -/
def readBase (document : Document) : Reading PlainField :=
  ((Reading.ofExcept (expand document)).andThen PlainField.readNode).located

def readParts (tag : FieldTag) (entries : Entries) : Reading Field :=
  match tag with
  | .plain tag => plain <$> PlainField.readParts tag entries
  | .bucketed =>
      (bucketed <$> baseLabel.required entries readBase <*> readUnit entries).sealed
        [kindLabel, baseLabel, unitLabel] entries

def readNode (document : Document) : Reading Field :=
  (Reading.tagged "kind" FieldTag.ofName? document).andThen fun (tag, entries) =>
    (readParts tag entries).under tag.name

def read (document : Document) : Reading Field :=
  (Reading.ofExcept (expand document)).andThen readNode

def toDocument : Field → Document
  | plain field => field.toDocument
  | bucketed field unit =>
      .record [("kind", .text "datetime-field"), ("field", field.toDocument),
        ("unit", unitDocument unit)]

end Field

end AnalyticsQuery
