import AnalyticsQuery.Reading.Record
import AnalyticsQuery.Reading.Scalar
import AnalyticsQuery.Reading.Timestamp
import Mathlib.Tactic.SplitIfs

/-!
# Outcomes of readings

What the parts of a reading must have given when the whole is accepted, and at which fault
the whole breaks off, if it does.
-/

namespace AnalyticsQuery.Reading

variable {α β : Type}

theorem map_eq_ok_iff {reading : Reading α} {f : α → β} {result : β} :
    reading.map f = .ok result ↔ ∃ value, reading = .ok value ∧ f value = result := by
  cases reading <;> simp [map]

theorem andThen_eq_ok_iff {first : Reading α} {next : α → Reading β} {result : β} :
    first.andThen next = .ok result ↔ ∃ value, first = .ok value ∧ next value = .ok result := by
  cases first <;> simp [andThen]

theorem under_eq_ok_iff {step : String} {reading : Reading α} {value : α} :
    reading.under step = .ok value ↔ reading = .ok value := by
  cases reading <;> simp [under]

theorem seq_eq_ok_iff {first : Reading (α → β)} {second : Reading α} {result : β} :
    (first <*> second) = .ok result ↔
      ∃ f value, first = .ok f ∧ second = .ok value ∧ f value = result := by
  change Reading.seq first (fun _ => second) = .ok result ↔ _
  cases first <;> cases second <;> simp [seq, map]

theorem ok_of_sealed {reading : Reading α} {labels : List Label} {entries : Document.Entries}
    {value : α} (h : reading.sealed labels entries = .ok value) : reading = .ok value := by
  obtain ⟨f, _, hreading, _, hvalue⟩ := seq_eq_ok_iff.1 h
  obtain ⟨first, hfirst, hf⟩ := map_eq_ok_iff.1 hreading
  rw [← hf] at hvalue
  rw [hfirst, ← hvalue]

/-! ## Faults -/

/-- The fault at which a reading breaks off. -/
def fault? : Reading α → Option Fault
  | .broken fault => some fault
  | _ => none

/-- Whether a fault is not turned into an issue of its place. -/
def escapes : Fault → Bool
  | .malformed _ => false
  | _ => true

@[simp]
theorem fault?_ok (value : α) : (Reading.ok value).fault? = none := rfl

@[simp]
theorem fault?_rejected (issues : List Issue) : (rejected issues : Reading α).fault? = none := rfl

@[simp]
theorem fault?_reject (cause : IssueCause) : (reject cause : Reading α).fault? = none := rfl

@[simp]
theorem fault?_broken (fault : Fault) : (broken fault : Reading α).fault? = some fault := rfl

theorem fault?_eq_none_iff {reading : Reading α} : reading.fault? = none ↔
    (∃ value, reading = .ok value) ∨ ∃ issues, reading = .rejected issues := by
  cases reading <;> simp

@[simp]
theorem fault?_map (f : α → β) (reading : Reading α) : (reading.map f).fault? = reading.fault? := by
  cases reading <;> rfl

@[simp]
theorem fault?_under (step : String) (reading : Reading α) :
    (reading.under step).fault? = reading.fault? := by
  cases reading <;> rfl

/-- Of two parts, the fault of the first one is met first. -/
@[simp]
theorem fault?_seq (first : Reading (α → β)) (second : Reading α) :
    (first <*> second).fault? = first.fault?.or second.fault? := by
  change (Reading.seq first fun _ => second).fault? = _
  cases first <;> cases second <;> rfl

@[simp]
theorem fault?_located (reading : Reading α) :
    reading.located.fault? = reading.fault?.filter escapes := by
  cases reading with
  | ok value => rfl
  | rejected issues => rfl
  | broken fault => cases fault <;> rfl

theorem fault?_andThen (first : Reading α) (next : α → Reading β)
    (h : ∀ value, (next value).fault? = none) : (first.andThen next).fault? = first.fault? := by
  cases first with
  | ok value => exact h value
  | rejected issues => rfl
  | broken fault => rfl

theorem fault?_itemsFrom (index : Nat) (readings : List (Reading α)) :
    (itemsFrom index readings).fault? = readings.findSome? fault? := by
  induction readings generalizing index with
  | nil => rfl
  | cons reading readings ih =>
      rw [itemsFrom, fault?_seq, map_eq_map, fault?_map, fault?_under, ih, List.findSome?_cons]
      cases reading.fault? <;> rfl

@[simp]
theorem fault?_items (readings : List (Reading α)) :
    (items readings).fault? = readings.findSome? fault? := fault?_itemsFrom 0 readings

@[simp]
theorem fault?_noStrangers (labels : List Label) (entries : Document.Entries) :
    (noStrangers labels entries).fault? = none := by
  rw [noStrangers]
  split <;> rfl

@[simp]
theorem fault?_sealed (reading : Reading α) (labels : List Label) (entries : Document.Entries) :
    (reading.sealed labels entries).fault? = reading.fault? := by
  simp [sealed]

@[simp]
theorem fault?_required (label : Label) (entries : Document.Entries)
    (read : Document → Reading α) : (label.required entries read).fault? =
      (label.find? entries).bind fun part => (read part.2).fault? := by
  rw [Label.required]
  cases label.find? entries <;> simp

@[simp]
theorem fault?_optional (label : Label) (entries : Document.Entries) (absent : α)
    (read : Document → Reading α) : (label.optional entries absent read).fault? =
      (label.find? entries).bind fun part => (read part.2).fault? := by
  rw [Label.optional]
  cases label.find? entries <;> simp

/-! ## Scalars -/

@[simp]
theorem fault?_string (document : Document) : (string document).fault? = none := by
  cases document <;> rfl

@[simp]
theorem fault?_int (document : Document) : (int document).fault? = none := by
  rw [int]
  split <;> rfl

@[simp]
theorem fault?_boolOfInt (value : Int) : (boolOfInt value).fault? = none := by
  unfold boolOfInt
  split_ifs <;> rfl

@[simp]
theorem fault?_bool (document : Document) : (bool document).fault? = none := by
  unfold bool
  split
  · rfl
  · split_ifs <;> simp
  · split <;> simp
  · unfold boolOfWord
    dsimp only
    split_ifs <;> rfl
  · rfl

@[simp]
theorem fault?_choice (choice? : String → Option α) (document : Document) :
    (choice choice? document).fault? = none := by
  unfold choice
  split
  · split <;> rfl
  · rfl

theorem fault?_nullable (read : Document → Reading α) (document : Document)
    (h : ∀ document, (read document).fault? = none) :
    (nullable read document).fault? = none := by
  unfold nullable
  split
  · rfl
  · rw [map_eq_map, fault?_map, h]

theorem fault?_timestampOfReading (reading : Calendar.Iso.Reading) :
    (timestampOfReading reading).fault? = none := by
  unfold timestampOfReading
  split <;> rfl

theorem fault?_timestampOfCount (reading : Option Calendar.Iso.Reading) :
    (timestampOfCount reading).fault? = none := by
  unfold timestampOfCount
  split
  · exact fault?_timestampOfReading _
  · rfl

@[simp]
theorem fault?_timestamp (document : Document) : (timestamp document).fault? = none := by
  unfold timestamp
  split
  · rfl
  · unfold timestampOfText
    split
    · exact fault?_timestampOfReading _
    · rfl
  · split_ifs
    · exact fault?_timestampOfCount _
    · rfl
  · exact fault?_timestampOfCount _
  · rfl

end AnalyticsQuery.Reading
