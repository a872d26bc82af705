import AnalyticsQuery.Binary64.Basic
import AnalyticsQuery.Calendar.Timestamp

/-!
# Documents

The loosely typed data from which queries and settings are read, and in which
literal filter values stay.  An object keeps its entries in the order written; its
keys are texts as a rule, but data from elsewhere may have any scalar for a key.
-/

namespace AnalyticsQuery

inductive Document where
  | null
  | bool (value : Bool)
  | int (value : Int)
  | float (value : Binary64)
  | text (value : String)
  | timestamp (value : Calendar.Timestamp)
  | list (items : List Document)
  | object (entries : List (Document × Document))

namespace Document

abbrev Entries := List (Document × Document)

/-- Entries whose keys are texts. -/
abbrev Parts := List (String × Document)

/-- Whether a key is the text `name`. -/
def isNamed (name : String) : Document → Bool
  | .text key => key = name
  | _ => false

/-- Value of the first entry with a name. -/
def find? (name : String) (entries : Entries) : Option Document :=
  (entries.find? (·.1.isNamed name)).map (·.2)

def entriesOf (parts : Parts) : Entries := parts.map fun (name, value) => (.text name, value)

/-- An object with named entries. -/
def record (parts : Parts) : Document := .object (entriesOf parts)

def ofTexts (texts : List String) : Document := .list (texts.map .text)

/-- The parts whose value is not null. -/
def dropNulls (parts : Parts) : Parts :=
  parts.filter fun part => match part.2 with
    | .null => false
    | _ => true

/-! ## Equality -/

mutual

def same : Document → Document → Bool
  | .null, .null => true
  | .bool left, .bool right => left = right
  | .int left, .int right => left = right
  | .float left, .float right => left = right
  | .text left, .text right => left = right
  | .timestamp left, .timestamp right => left = right
  | .list left, .list right => sameItems left right
  | .object left, .object right => sameEntries left right
  | _, _ => false

def sameItems : List Document → List Document → Bool
  | [], [] => true
  | left :: lefts, right :: rights => same left right && sameItems lefts rights
  | _, _ => false

def sameEntries : List (Document × Document) → List (Document × Document) → Bool
  | [], [] => true
  | (leftKey, left) :: lefts, (rightKey, right) :: rights =>
      same leftKey rightKey && same left right && sameEntries lefts rights
  | _, _ => false

end

mutual

theorem same_iff : ∀ left right : Document, same left right = true ↔ left = right
  | .null, right => by cases right <;> simp [same]
  | .bool _, right => by cases right <;> simp [same]
  | .int _, right => by cases right <;> simp [same]
  | .float _, right => by cases right <;> simp [same]
  | .text _, right => by cases right <;> simp [same]
  | .timestamp _, right => by cases right <;> simp [same]
  | .list items, right => by cases right <;> simp [same, sameItems_iff items]
  | .object entries, right => by cases right <;> simp [same, sameEntries_iff entries]

theorem sameItems_iff : ∀ lefts rights : List Document,
    sameItems lefts rights = true ↔ lefts = rights
  | [], rights => by cases rights <;> simp [sameItems]
  | left :: lefts, rights => by
      cases rights <;> simp [sameItems, same_iff left, sameItems_iff lefts]

theorem sameEntries_iff : ∀ lefts rights : List (Document × Document),
    sameEntries lefts rights = true ↔ lefts = rights
  | [], rights => by cases rights <;> simp [sameEntries]
  | (leftKey, left) :: lefts, rights => by
      cases rights <;>
        simp [sameEntries, same_iff leftKey, same_iff left, sameEntries_iff lefts, Prod.ext_iff,
          and_assoc]

end

instance : DecidableEq Document := fun left right =>
  decidable_of_iff (same left right = true) (same_iff left right)

end Document

end AnalyticsQuery
