import AnalyticsQuery.Reading.Issue

/-!
# Readings

The result of reading a document.  Independent parts are combined with `<*>`,
which collects the issues of all of them in order; a fault ends the reading at
once, so later parts are not looked at.
-/

namespace AnalyticsQuery

inductive Reading (α : Type) where
  | ok (value : α)
  | rejected (issues : List Issue)
  | broken (fault : Fault)
  deriving DecidableEq

namespace Reading

variable {α β : Type}

def reject (cause : IssueCause) : Reading α := .rejected [.here cause]

def map (f : α → β) : Reading α → Reading β
  | .ok value => .ok (f value)
  | .rejected issues => .rejected issues
  | .broken fault => .broken fault

def seq (first : Reading (α → β)) (second : Unit → Reading α) : Reading β :=
  match first with
  | .ok f => map f (second ())
  | .rejected issues =>
      match second () with
      | .ok _ => .rejected issues
      | .rejected more => .rejected (issues ++ more)
      | .broken fault => .broken fault
  | .broken fault => .broken fault

instance : Applicative Reading where
  pure := .ok
  map := map
  seq := seq

@[simp]
theorem pure_eq_ok (value : α) : (pure value : Reading α) = .ok value := rfl

@[simp]
theorem map_eq_map (f : α → β) (reading : Reading α) : f <$> reading = reading.map f := rfl

@[simp]
theorem ok_seq (f : α → β) (reading : Reading α) :
    (Reading.ok f) <*> reading = reading.map f := rfl

@[simp]
theorem map_ok (f : α → β) (value : α) : (Reading.ok value).map f = .ok (f value) := rfl

/-- A second reading that depends on the value of the first. -/
def andThen (first : Reading α) (next : α → Reading β) : Reading β :=
  match first with
  | .ok value => next value
  | .rejected issues => .rejected issues
  | .broken fault => .broken fault

@[simp]
theorem ok_andThen (value : α) (next : α → Reading β) :
    (Reading.ok value).andThen next = next value := rfl

/-- The same reading, of a part one step below the root. -/
def under (step : String) : Reading α → Reading α
  | .rejected issues => .rejected (issues.map fun issue => ⟨step :: issue.path, issue.cause⟩)
  | reading => reading

@[simp]
theorem under_ok (step : String) (value : α) : (Reading.ok value).under step = .ok value := rfl

/-- Below the root, a value that means nothing is an issue of its place. -/
def located : Reading α → Reading α
  | .broken (.malformed error) => reject (.valueError error)
  | reading => reading

@[simp]
theorem located_ok (value : α) : (Reading.ok value).located = .ok value := rfl

def ofExcept : Except Fault α → Reading α
  | .ok value => .ok value
  | .error fault => .broken fault

/-- Readings of the items of a list, each under its index, counted from `index`. -/
def itemsFrom (index : Nat) : List (Reading α) → Reading (List α)
  | [] => .ok []
  | item :: items =>
      (· :: ·) <$> item.under (Numeral.natText index) <*> itemsFrom (index + 1) items

def items (readings : List (Reading α)) : Reading (List α) := itemsFrom 0 readings

end Reading

end AnalyticsQuery
