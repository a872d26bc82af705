import AnalyticsQuery.Dictionary
import AnalyticsQuery.Reading.Basic

/-!
# Attributes

Settings and date ranges are objects whose attributes can be assigned one by one.  The
values of their parts are checked.  What is assigned under a name that starts with an
underscore is stored as it is, and one such name is that of the dictionary in which an
object keeps all of its attributes.
-/

namespace AnalyticsQuery

/-- What an object keeps under the names of its attributes, in the order in which the names
were first stored. -/
structure Attributes where
  entries : Document.Entries
  deriving DecidableEq

/-- What assigning to a name means. -/
inductive AttributeTarget where
  /-- A name that the kind of object keeps for itself. -/
  | reserved
  /-- The kind of an object, which no document can stand for. -/
  | kind
  /-- All attributes at once. -/
  | dictionary
  /-- Whatever else starts with an underscore. -/
  | free
  /-- Any other name is that of a part, or nobody's. -/
  | part
  deriving DecidableEq

namespace AttributeTarget

/-- Names that belong to all objects of a kind together, or cannot be written at all. -/
def reservedNames : List String :=
  ["model_config", "__class_vars__", "__private_attributes__", "__signature__",
    "__pydantic_complete__", "__pydantic_core_schema__", "__pydantic_custom_init__",
    "__pydantic_decorators__", "__pydantic_generic_metadata__",
    "__pydantic_parent_namespace__", "__pydantic_post_init__", "__pydantic_root_model__",
    "__pydantic_serializer__", "__pydantic_validator__", "__fields_set__", "__weakref__"]

def ofName (name : String) : AttributeTarget :=
  if name ∈ reservedNames then reserved
  else if name = "__class__" then kind
  else if name = "__dict__" then dictionary
  else if name.toList.head? = some '_' then free
  else part

end AttributeTarget

namespace Attributes

def find? (attributes : Attributes) (name : String) : Option Document :=
  Document.find? name attributes.entries

/-- Stores a value in the place of what was stored under the name before. -/
def store (attributes : Attributes) (name : String) (value : Document) : Attributes :=
  ⟨storeEntry (.text name) value attributes.entries⟩

/-- Assigns a value to a name.  `checkPart` says whether a value is accepted for a part,
and what is stored then. -/
def assign (attributes : Attributes) (checkPart : String → Document → Reading Document)
    (name : String) (value : Document) : Reading Attributes :=
  match AttributeTarget.ofName name with
  | .reserved => .broken .lockedAttribute
  | .kind => .broken .wrongType
  | .dictionary =>
      match value with
      | .object entries => .ok ⟨entries⟩
      | _ => .broken .wrongType
  | .free => .ok (attributes.store name value)
  | .part => (checkPart name value).map (attributes.store name)

end Attributes

namespace Reading

variable {α : Type}

/-- Refuses a value for a name that is no part: one of the `computed` names, or a stranger. -/
def noPart (computed : List String) (name : String) : Reading α :=
  if name ∈ computed then .broken .lockedAttribute
  else (reject .noSuchAttribute).under name

/-- The parts of fields, operands, filters and queries never change.  What is assigned under
names that start with an underscore is kept beside the parts and is never shown. -/
def assignFrozen (node : α) (name : String) : Reading α :=
  match AttributeTarget.ofName name with
  | .reserved => .broken .lockedAttribute
  | .kind => .broken .wrongType
  | .dictionary => .ok node
  | .free => .ok node
  | .part => (reject .frozenInstance).under name

end Reading

end AnalyticsQuery
