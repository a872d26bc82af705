import AnalyticsQuery.Dictionary
import AnalyticsQuery.Document.Text

/-!
# Keys of objects

Scalars can be keys of an object, lists and objects cannot.  Two keys are the same
key when they are equal as values, such as `1` and `1.0`; what is stored under a
key for a second time replaces the value and keeps the place and the first key.
-/

namespace AnalyticsQuery.Document

/-- The number that a scalar equals. -/
def keyNumber? : Document → Option Int
  | .int value => some value
  | .bool value => some (if value then 1 else 0)
  | .float value => value.whole?
  | _ => none

def isKey : Document → Bool
  | .list _ => false
  | .object _ => false
  | _ => true

/-- A key in the form that decides whether two keys are equal: a number that is
whole is an integer, and a time with an offset is one in universal time. -/
def canonicalKey (key : Document) : Document :=
  match keyNumber? key, key with
  | some number, _ => .int number
  | none, .timestamp (.zoned moment) =>
      match moment.instant with
      | .ok instant => .timestamp (.zoned ⟨instant, 0⟩)
      | .error _ => key
  | none, key => key

/-- The key as a step of a path. -/
def keyStep : Document → String
  | .text value => value
  | .bool value => if value then "1" else "0"
  | key => key.quotedText

/-- Entries with distinct keys: each key as first written, with the last value given. -/
def distinctEntries (entries : Entries) : Entries :=
  let canonical := dictionaryOf (entries.map fun (key, value) => (canonicalKey key, value))
  canonical.map fun (key, value) =>
    ((entries.find? fun entry => canonicalKey entry.1 = key).elim key (·.1), value)

end AnalyticsQuery.Document
