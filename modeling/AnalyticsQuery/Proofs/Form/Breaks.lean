import AnalyticsQuery.Proofs.Form.Given
import AnalyticsQuery.Proofs.Reading
import Mathlib.Logic.Basic

/-!
# When a reading breaks off

A reading breaks off as a whole as soon as one of its parts does.  For each way of putting
readings together there is a rule that says under which condition the whole breaks off,
given the conditions of its parts; a node's condition is put together by these rules in the
way its reader is.
-/

namespace AnalyticsQuery

open Document (Entries)

/-! ## When a reading breaks off -/

/-- Whether a part is given by a document of some sort. -/
def Label.Holds (label : Label) (entries : Entries) (sort : Document → Prop) : Prop :=
  ∃ name document, label.find? entries = some (name, document) ∧ sort document

namespace Reading

/-- A reading that breaks off exactly under a condition, and then at a fault that escapes. -/
structure BreaksIff {α : Type} (reading : Reading α) (condition : Prop) : Prop where
  breaks_iff : reading.fault? ≠ none ↔ condition
  escapes_of_fault : ∀ fault, reading.fault? = some fault → escapes fault

namespace BreaksIff

variable {α β : Type} {reading : Reading α} {condition other : Prop}

theorem congr (h : reading.BreaksIff condition) (hiff : condition ↔ other) :
    reading.BreaksIff other :=
  ⟨h.breaks_iff.trans hiff, h.escapes_of_fault⟩

/-- Readings with the same fault break off together. -/
theorem of_fault?_eq {same : Reading β} (h : reading.BreaksIff condition)
    (heq : same.fault? = reading.fault?) : same.BreaksIff condition := by
  constructor
  · rw [heq]
    exact h.breaks_iff
  · rw [heq]
    exact h.escapes_of_fault

theorem never (h : reading.fault? = none) : reading.BreaksIff False := by
  constructor <;> simp [h]

theorem fault?_eq_none (h : reading.BreaksIff False) : reading.fault? = none :=
  not_not.1 h.breaks_iff.1

theorem map (f : α → β) (h : reading.BreaksIff condition) :
    (f <$> reading).BreaksIff condition :=
  h.of_fault?_eq (fault?_map f reading)

theorem under (step : String) (h : reading.BreaksIff condition) :
    (reading.under step).BreaksIff condition :=
  h.of_fault?_eq (fault?_under step reading)

theorem sealed (labels : List Label) (entries : Entries) (h : reading.BreaksIff condition) :
    (reading.sealed labels entries).BreaksIff condition :=
  h.of_fault?_eq (fault?_sealed reading labels entries)

theorem seq {first : Reading (α → β)} (hfirst : first.BreaksIff condition)
    (hsecond : reading.BreaksIff other) : (first <*> reading).BreaksIff (condition ∨ other) := by
  constructor
  · rw [fault?_seq, ← hfirst.breaks_iff, ← hsecond.breaks_iff]
    cases first.fault? <;> simp
  · intro fault hfault
    rw [fault?_seq, Option.or_eq_some_iff] at hfault
    rcases hfault with hfault | ⟨_, hfault⟩
    · exact hfirst.escapes_of_fault fault hfault
    · exact hsecond.escapes_of_fault fault hfault

theorem located (reading : Reading α) :
    reading.located.BreaksIff (∃ fault, reading.fault? = some fault ∧ escapes fault) := by
  constructor
  · rw [fault?_located]
    cases reading.fault? <;> simp
  · intro fault hfault
    rw [fault?_located, Option.filter_eq_some_iff] at hfault
    exact hfault.2

theorem relocated (h : reading.BreaksIff condition) : reading.located.BreaksIff condition := by
  apply h.of_fault?_eq
  rw [fault?_located]
  cases hfault : reading.fault? with
  | none => rfl
  | some fault => rw [Option.filter_some, if_pos (h.escapes_of_fault fault hfault)]

theorem of_located (h : reading.located.BreaksIff condition)
    (hescapes : ∀ fault, reading.fault? = some fault → escapes fault) :
    reading.BreaksIff condition := by
  apply h.of_fault?_eq
  rw [fault?_located]
  cases hfault : reading.fault? with
  | none => rfl
  | some fault => rw [Option.filter_some, if_pos (hescapes fault hfault)]

theorem found {label : Label} {entries : Entries} {read : Document → Reading β}
    {faulty : Document → Prop} (h : ∀ document, (read document).BreaksIff (faulty document))
    (hfault : reading.fault? = (label.find? entries).bind fun part => (read part.2).fault?) :
    reading.BreaksIff (label.Holds entries faulty) := by
  unfold Label.Holds
  constructor
  · rw [hfault]
    cases label.find? entries with
    | none => simp
    | some part =>
        obtain ⟨name, document⟩ := part
        rw [Option.bind_some, (h document).breaks_iff]
        constructor
        · exact fun hfaulty => ⟨name, document, rfl, hfaulty⟩
        · rintro ⟨_, _, ⟨⟩, hfaulty⟩
          exact hfaulty
  · intro fault heq
    rw [hfault, Option.bind_eq_some_iff] at heq
    obtain ⟨part, _, hpart⟩ := heq
    exact (h part.2).escapes_of_fault fault hpart

theorem required (label : Label) (entries : Entries) {read : Document → Reading α}
    {faulty : Document → Prop} (h : ∀ document, (read document).BreaksIff (faulty document)) :
    (label.required entries read).BreaksIff (label.Holds entries faulty) :=
  found h (fault?_required label entries read)

theorem optional (label : Label) (entries : Entries) (absent : α) {read : Document → Reading α}
    {faulty : Document → Prop} (h : ∀ document, (read document).BreaksIff (faulty document)) :
    (label.optional entries absent read).BreaksIff (label.Holds entries faulty) :=
  found h (fault?_optional label entries absent read)

theorem items {documents : List Document} {read : Document → Reading α}
    {faulty : Document → Prop}
    (h : ∀ document ∈ documents, (read document).BreaksIff (faulty document)) :
    (Reading.items (documents.map read)).BreaksIff (∃ document ∈ documents, faulty document) := by
  have hfault : (Reading.items (documents.map read)).fault? =
      documents.findSome? fun document => (read document).fault? := by
    rw [fault?_items, List.findSome?_map]
    rfl
  constructor
  · rw [hfault, Ne, List.findSome?_eq_none_iff, not_forall]
    constructor
    · rintro ⟨document, hfound⟩
      obtain ⟨hmem, hbreaks⟩ := Classical.not_imp.1 hfound
      exact ⟨document, hmem, (h document hmem).breaks_iff.1 hbreaks⟩
    · rintro ⟨document, hmem, hfaulty⟩
      exact ⟨document, fun hnever => (h document hmem).breaks_iff.2 hfaulty (hnever hmem)⟩
  · intro fault heq
    rw [hfault] at heq
    obtain ⟨document, hmem, hbroken⟩ := List.exists_of_findSome?_eq_some heq
    exact (h document hmem).escapes_of_fault fault hbroken

/-- A tagged node breaks off where the parts of its kind do. -/
theorem tagged {Tag : Type} {key : String} {tag? : String → Option Tag} {tagName : Tag → String}
    {readParts : Tag → Entries → Reading α} {faulty : Tag → Entries → Prop}
    (h : ∀ tag entries, (readParts tag entries).BreaksIff (faulty tag entries))
    (document : Document) :
    ((Reading.tagged key tag? document).andThen fun (tag, entries) =>
      (readParts tag entries).under (tagName tag)).BreaksIff
      (∃ entries tag, document = .object entries ∧ tagOf? key tag? entries = some tag ∧
        faulty tag entries) := by
  cases document with
  | object entries =>
      cases htag : tagOf? key tag? entries with
      | none =>
          obtain ⟨cause, hrejected⟩ := tagged_of_tagOf?_eq_none htag
          apply (never _).congr
          · simp [htag]
          · rw [hrejected]
            rfl
      | some tag =>
          rw [tagged_of_tagOf? htag, ok_andThen]
          apply ((h tag entries).under (tagName tag)).congr
          simp [htag]
  | _ =>
      apply (never _).congr
      · simp
      · rfl

end BreaksIff

end Reading

/-! ## Expanding -/

/-- What it takes for an expansion to fail, as an issue of its place or at a fault that
escapes. -/
structure FaultKinds (fault? : Option Fault) (nameless short : Prop) : Prop where
  nameless_iff : nameless ↔ ∃ fault, fault? = some fault ∧ Reading.escapes fault = false
  short_iff : short ↔ ∃ fault, fault? = some fault ∧ Reading.escapes fault

/-- The first item that cannot be expanded decides for all of them. -/
theorem findSome?_escapes_iff {fault? : Document → Option Fault} {nameless short : Document → Prop}
    (h : ∀ item, FaultKinds (fault? item) (nameless item) (short item)) (items : List Document) :
    (∃ fault, items.findSome? fault? = some fault ∧ Reading.escapes fault) ↔
      ∃ before item after, items = before ++ item :: after ∧
        (∀ other ∈ before, ¬nameless other) ∧ short item := by
  constructor
  · rintro ⟨fault, hfault, hescapes⟩
    obtain ⟨before, item, after, hitems, hitem, hbefore⟩ := List.findSome?_eq_some_iff.1 hfault
    refine ⟨before, item, after, hitems, ?_, (h item).short_iff.2 ⟨fault, hitem, hescapes⟩⟩
    intro other hother hnameless
    obtain ⟨_, hnone, _⟩ := (h other).nameless_iff.1 hnameless
    rw [hbefore other hother] at hnone
    exact nomatch hnone
  · rintro ⟨before, item, after, rfl, hbefore, hitem⟩
    induction before with
    | nil =>
        obtain ⟨fault, hfault, hescapes⟩ := (h item).short_iff.1 hitem
        exact ⟨fault, by rw [List.nil_append, List.findSome?_cons, hfault], hescapes⟩
    | cons first before ih =>
        obtain ⟨hfirst, hrest⟩ := List.forall_mem_cons.1 hbefore
        rw [List.cons_append, List.findSome?_cons]
        cases hfault : fault? first with
        | none => exact ih hrest
        | some fault =>
            cases hescapes : Reading.escapes fault with
            | true => exact ⟨fault, rfl, hescapes⟩
            | false => exact absurd ((h first).nameless_iff.2 ⟨fault, hfault, hescapes⟩) hfirst

/-- The fault at which an expansion fails. -/
def expansionFault? : Except Fault Document → Option Fault
  | .ok _ => none
  | .error fault => some fault

/-- A list whose head, if it has one, is no tag. -/
def Nameless {Tag : Type} (tag? : String → Option Tag) : Document → Prop
  | .list [] => True
  | .list (head :: _) => headTag? tag? head = none
  | _ => False

/-- A list of a tag and nothing else. -/
def Bare {Tag : Type} (tag? : String → Option Tag) : Document → Prop
  | .list [head] => headTag? tag? head ≠ none
  | _ => False

namespace FaultKinds

variable {expanded : Except Fault Document} {nameless short deep : Prop} {α : Type}
  {readNode : Document → Reading α}

theorem not_short_of_ok (h : FaultKinds (expansionFault? expanded) nameless short)
    {node : Document} (hnode : expanded = .ok node) : ¬short := by
  rw [h.short_iff, hnode]
  rintro ⟨_, ⟨⟩, _⟩

/-- A node breaks off where its list is too short, or where the expanded node does. -/
theorem breaksIff (h : FaultKinds (expansionFault? expanded) nameless short)
    (hnode : ∀ node, expanded = .ok node → (readNode node).BreaksIff deep)
    (hdeep : deep → ∃ node, expanded = .ok node) :
    ((Reading.ofExcept expanded).andThen readNode).located.BreaksIff (short ∨ deep) := by
  cases hexpanded : expanded with
  | error fault =>
      have hnever : ¬deep := by
        intro hholds
        obtain ⟨node, hok⟩ := hdeep hholds
        rw [hexpanded] at hok
        exact nomatch hok
      apply (Reading.BreaksIff.located _).congr
      rw [h.short_iff, hexpanded]
      simp [Reading.ofExcept, Reading.andThen, expansionFault?, hnever]
  | ok node =>
      apply ((hnode node hexpanded).relocated).congr
      simp [h.not_short_of_ok hexpanded]

end FaultKinds

/-! ## Lists -/

/-- Items are all expanded before the first one is read: one that is too short is met unless
one without a tag comes first, one that breaks off later only if all of them have a tag. -/
def FaultyList (nameless short faulty : Document → Prop) (items : List Document) : Prop :=
  (∃ before item after, items = before ++ item :: after ∧
    (∀ other ∈ before, ¬nameless other) ∧ short item) ∨
  ((∀ other ∈ items, ¬nameless other) ∧ ∃ item ∈ items, faulty item)

theorem faultyList_breaksIff {α : Type} {fault? : Document → Option Fault}
    {nameless short faulty : Document → Prop}
    (hkinds : ∀ item, FaultKinds (fault? item) (nameless item) (short item))
    {items : List Document} {reading : Reading α}
    (hfailed : ∀ fault, items.findSome? fault? = some fault → reading.fault? = some fault)
    (hread : (∀ item ∈ items, fault? item = none) →
      reading.BreaksIff (∃ item ∈ items, faulty item)) :
    reading.located.BreaksIff (FaultyList nameless short faulty items) := by
  apply (Reading.BreaksIff.located reading).congr
  have hfirst := findSome?_escapes_iff hkinds items
  cases hfound : items.findSome? fault? with
  | some fault =>
      rw [hfailed fault hfound, ← hfound, hfirst]
      constructor
      · exact .inl
      · rintro (hshort | ⟨hnamed, _⟩)
        · exact hshort
        · obtain ⟨before, item, after, rfl, hitem, _⟩ := List.findSome?_eq_some_iff.1 hfound
          refine hfirst.1 ⟨fault, hfound, ?_⟩
          cases hescapes : Reading.escapes fault with
          | true => rfl
          | false =>
              exact absurd ((hkinds item).nameless_iff.2 ⟨fault, hitem, hescapes⟩)
                (hnamed item (by simp))
  | none =>
      have hnone := List.findSome?_eq_none_iff.1 hfound
      have hnamed : ∀ item ∈ items, ¬nameless item := by
        intro item hitem hnameless
        obtain ⟨_, hfault, _⟩ := (hkinds item).nameless_iff.1 hnameless
        rw [hnone item hitem] at hfault
        exact nomatch hfault
      have hbreaks := hread hnone
      constructor
      · rintro ⟨fault, hfault, _⟩
        exact .inr ⟨hnamed, hbreaks.breaks_iff.1 (by rw [hfault]; nofun)⟩
      · rintro (hshort | ⟨_, hfaulty⟩)
        · obtain ⟨_, himpossible, _⟩ := hfirst.2 hshort
          rw [hfound] at himpossible
          exact nomatch himpossible
        · obtain ⟨fault, hfault⟩ := Option.ne_none_iff_exists'.1 (hbreaks.breaks_iff.2 hfaulty)
          exact ⟨fault, hfault, hbreaks.escapes_of_fault fault hfault⟩

end AnalyticsQuery
