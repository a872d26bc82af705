import AnalyticsQuery.Document.Key
import AnalyticsQuery.Reading.Basic

/-!
# Reading records and tagged nodes

A record is an object with known parts.  A part may be given under its wire name
or under its plain name; when both are present the wire name wins and the other
entry is a stranger.  A tagged node is an object one of whose entries says which
kind of node it is.
-/

namespace AnalyticsQuery

/-- The two names of a part of a record. -/
structure Label where
  wire : String
  plain : String
  deriving DecidableEq

/-- A part with one name. -/
def Label.same (name : String) : Label := ⟨name, name⟩

namespace Label

open Document (Entries)

/-- The name under which a part is given, and its value. -/
def find? (label : Label) (entries : Entries) : Option (String × Document) :=
  match Document.find? label.wire entries with
  | some value => some (label.wire, value)
  | none => (Document.find? label.plain entries).map fun value => (label.plain, value)

variable {α : Type}

/-- A part without which the record is incomplete. -/
def required (label : Label) (entries : Entries) (read : Document → Reading α) : Reading α :=
  match label.find? entries with
  | none => (Reading.reject .missing).under label.wire
  | some (name, value) => (read value).under name

def optional (label : Label) (entries : Entries) (absent : α)
    (read : Document → Reading α) : Reading α :=
  match label.find? entries with
  | none => .ok absent
  | some (name, value) => (read value).under name

end Label

namespace Reading

open Document (Entries)

/-- Why an entry with a key is a stranger, given the names that are in use. -/
def strangerCause? (used : List String) : Document → Option IssueCause
  | .text key => if used.contains key then none else some .extraForbidden
  | _ => some .invalidKey

/-- Rejects every entry that gives none of the labelled parts. -/
def noStrangers (labels : List Label) (entries : Entries) : Reading Unit :=
  let used := labels.filterMap fun label => (label.find? entries).map (·.1)
  let strangers := entries.filterMap fun entry =>
    (strangerCause? used entry.1).map fun cause => Issue.mk [Document.keyStep entry.1] cause
  match strangers with
  | [] => .ok ()
  | strangers => .rejected strangers

/-- A reading of the parts of a record that has no further entries. -/
def sealed {α : Type} (reading : Reading α) (labels : List Label) (entries : Entries) :
    Reading α :=
  (fun value _ => value) <$> reading <*> noStrangers labels entries

/-- The entries of an object where a record is expected. -/
def record : Document → Reading Entries
  | .object entries => .ok entries
  | _ => reject .modelType

/-- The entries of an object where a tagged node is expected, with what its tag means. -/
def tagged {Tag : Type} (key : String) (tag? : String → Option Tag) :
    Document → Reading (Tag × Entries)
  | .object entries =>
      match Document.find? key entries with
      | none => reject .unionTagNotFound
      | some (.text name) =>
          match tag? name with
          | some tag => .ok (tag, entries)
          | none => reject .unionTagInvalid
      | some _ => reject .unionTagInvalid
  | _ => reject .modelAttributesType

end Reading

end AnalyticsQuery
