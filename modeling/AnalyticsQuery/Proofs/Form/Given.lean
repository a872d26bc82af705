import AnalyticsQuery.Form.Field
import Mathlib.Data.List.Basic

/-!
# Giving the parts of a record

The parts of a record may be given in any order, each under either of its names, and some
may be left out.  Whatever is chosen, a reader finds the same value for every part and no
stranger, as long as no two labels share a name.
-/

namespace AnalyticsQuery

open Document (Entries)

/-! ## Names -/

namespace Label

/-- Either name of a part. -/
def Names (label : Label) (name : String) : Prop := name = label.wire ∨ name = label.plain

/-- Labels that share no name. -/
def Apart (left right : Label) : Prop := ∀ name, left.Names name → ¬right.Names name

instance (left right : Label) : Decidable (left.Apart right) :=
  decidable_of_iff (left.wire ≠ right.wire ∧ left.wire ≠ right.plain ∧
      left.plain ≠ right.wire ∧ left.plain ≠ right.plain) (by
    unfold Apart Names
    grind)

theorem Apart.symm {left right : Label} (h : left.Apart right) : right.Apart left :=
  fun name hright hleft => h name hleft hright

end Label

/-! ## Finding one entry among others -/

namespace Document

variable {before after : Entries} {key name : String} {document : Document}

theorem find?_eq_none_iff {entries : Entries} :
    find? name entries = none ↔ ∀ entry ∈ entries, entry.1.isNamed name = false := by
  simp [find?]

theorem find?_append (name : String) (before after : Entries) :
    find? name (before ++ after) = (find? name before).or (find? name after) := by
  rw [find?, find?, find?, List.find?_append]
  cases before.find? (·.1.isNamed name) <;> rfl

@[simp]
theorem isNamed_text (name key : String) : isNamed name (.text key) = (key = name : Bool) := rfl

theorem find?_cons (name : String) (key document : Document) (entries : Entries) :
    find? name ((key, document) :: entries) =
      if key.isNamed name then some document else find? name entries := by
  rw [find?, List.find?_cons]
  cases hkey : key.isNamed name <;> rfl

theorem find?_inserted_self (h : find? name (before ++ after) = none) :
    find? name (before ++ (.text name, document) :: after) = some document := by
  rw [find?_append, Option.or_eq_none_iff] at h
  rw [find?_append, h.1, find?_cons, isNamed_text, if_pos (decide_eq_true rfl)]
  rfl

theorem find?_inserted_of_ne (h : key ≠ name) :
    find? name (before ++ (.text key, document) :: after) = find? name (before ++ after) := by
  rw [find?_append, find?_append, find?_cons, isNamed_text, if_neg (by simpa using h)]

end Document

namespace Label

variable {label : Label} {before after : Entries} {name : String} {document : Document}

theorem find?_eq_none_iff {entries : Entries} : label.find? entries = none ↔
    Document.find? label.wire entries = none ∧ Document.find? label.plain entries = none := by
  rw [find?]
  cases Document.find? label.wire entries <;> simp

theorem find?_same (name : String) (entries : Entries) :
    (Label.same name).find? entries =
      (Document.find? name entries).map fun value => (name, value) := by
  rw [find?, same]
  cases Document.find? name entries <;> rfl

theorem find?_inserted_self (hname : label.Names name)
    (h : label.find? (before ++ after) = none) :
    label.find? (before ++ (.text name, document) :: after) = some (name, document) := by
  obtain ⟨hwire, hplain⟩ := find?_eq_none_iff.1 h
  by_cases hwritten : name = label.wire
  · rw [find?, hwritten, Document.find?_inserted_self hwire]
  · obtain rfl := hname.resolve_left hwritten
    rw [find?, Document.find?_inserted_of_ne hwritten, hwire,
      Document.find?_inserted_self hplain]
    rfl

theorem find?_inserted_of_not_names (hname : ¬label.Names name) :
    label.find? (before ++ (.text name, document) :: after) = label.find? (before ++ after) := by
  obtain ⟨hwire, hplain⟩ := not_or.1 hname
  rw [find?, find?, Document.find?_inserted_of_ne hwire, Document.find?_inserted_of_ne hplain]

end Label

/-! ## Parts -/

/-- Entries that give some parts and nothing else. -/
inductive Given : List (Label × Option Document) → Entries → Prop
  | nil : Given [] []
  | part {label : Label} {name : String} {document : Document}
      {parts : List (Label × Option Document)} (before after : Entries)
      (hname : label.Names name) (hothers : Given parts (before ++ after)) :
      Given ((label, some document) :: parts) (before ++ (.text name, document) :: after)
  | leftOut {label : Label} {parts : List (Label × Option Document)} {entries : Entries}
      (hothers : Given parts entries) : Given ((label, none) :: parts) entries

/-- A value, unless it is null. -/
def Document.unlessNull : Document → Option Document
  | .null => none
  | document => some document

theorem Document.unlessNull_of_ne_null {document : Document} (h : document ≠ .null) :
    unlessNull document = some document := by
  cases document <;> first | rfl | exact absurd rfl h

/-- A part that may be left out where an absent one stands for the same. -/
inductive Optionally (written : Document → Prop) (isDefault : Prop) : Option Document → Prop
  | given {document : Document} (h : written document) :
      Optionally written isDefault (some document)
  | leftOut (h : isDefault) : Optionally written isDefault none

/-- A value that may be missing, and then is null or left out. -/
theorem Optionally.elim_unlessNull {α : Type} {write : α → Document}
    (hwrite : ∀ value, write value ≠ .null) (value : Option α) :
    Optionally (· = value.elim .null write) (value = none)
      (value.elim .null write).unlessNull := by
  cases value with
  | none => exact .leftOut rfl
  | some value =>
      rw [Option.elim_some, Document.unlessNull_of_ne_null (hwrite value)]
      exact .given rfl

namespace Given

variable {parts : List (Label × Option Document)} {entries : Entries} {label : Label}
  {part : Option Document} {document : Document}

/-- The given parts one after another. -/
theorem cons {name : String} (hname : label.Names name) (hothers : Given parts entries) :
    Given ((label, some document) :: parts) ((.text name, document) :: entries) :=
  Given.part [] entries hname hothers

theorem eq_nil_of_nil (h : Given [] entries) : entries = [] := by
  cases h
  rfl

theorem exists_label_of_mem (h : Given parts entries) {entry : Document × Document}
    (hentry : entry ∈ entries) :
    ∃ label ∈ parts.map Prod.fst, ∃ name, label.Names name ∧ entry.1 = .text name := by
  induction h with
  | nil => exact absurd hentry List.not_mem_nil
  | part before after hname hothers ih =>
      rcases List.mem_append.1 hentry with hbefore | hrest
      · obtain ⟨label, hlabel, hfound⟩ := ih (List.mem_append_left _ hbefore)
        exact ⟨label, List.mem_cons_of_mem _ hlabel, hfound⟩
      · rcases List.mem_cons.1 hrest with rfl | hafter
        · exact ⟨_, List.mem_cons_self, _, hname, rfl⟩
        · obtain ⟨label, hlabel, hfound⟩ := ih (List.mem_append_right _ hafter)
          exact ⟨label, List.mem_cons_of_mem _ hlabel, hfound⟩
  | leftOut hothers ih =>
      obtain ⟨label, hlabel, hfound⟩ := ih hentry
      exact ⟨label, List.mem_cons_of_mem _ hlabel, hfound⟩

/-- A label apart from those of the parts finds nothing. -/
theorem find?_eq_none (h : Given parts entries)
    (happart : ∀ other ∈ parts.map Prod.fst, label.Apart other) : label.find? entries = none := by
  have hnever : ∀ name, label.Names name → Document.find? name entries = none := by
    intro name hname
    rw [Document.find?_eq_none_iff]
    intro entry hentry
    obtain ⟨other, hother, known, hknown, hkey⟩ := h.exists_label_of_mem hentry
    rw [hkey, Document.isNamed_text, decide_eq_false_iff_not]
    rintro rfl
    exact happart other hother known hname hknown
  exact Label.find?_eq_none_iff.2 ⟨hnever _ (.inl rfl), hnever _ (.inr rfl)⟩

/-- What a reader finds of a part is what was given, under one of its names. -/
theorem find?_of_mem (h : Given parts entries) (hapart : (parts.map Prod.fst).Pairwise Label.Apart)
    (hpart : (label, part) ∈ parts) :
    ∃ name, label.find? entries = part.map fun document => (name, document) := by
  induction h with
  | nil => exact absurd hpart List.not_mem_nil
  | part before after hname hothers ih =>
      obtain ⟨hfirst, hrest⟩ := List.pairwise_cons.1 hapart
      rcases List.mem_cons.1 hpart with heq | hpart
      · obtain ⟨rfl, rfl⟩ := Prod.mk.inj heq
        exact ⟨_, Label.find?_inserted_self hname (hothers.find?_eq_none hfirst)⟩
      · have hother := hfirst _ (List.mem_map_of_mem hpart)
        rw [Label.find?_inserted_of_not_names (hother _ hname)]
        exact ih hrest hpart
  | leftOut hothers ih =>
      obtain ⟨hfirst, hrest⟩ := List.pairwise_cons.1 hapart
      rcases List.mem_cons.1 hpart with heq | hpart
      · obtain ⟨rfl, rfl⟩ := Prod.mk.inj heq
        exact ⟨"", hothers.find?_eq_none hfirst⟩
      · exact ih hrest hpart

/-- Every entry is what some label finds. -/
theorem exists_find?_of_mem (h : Given parts entries)
    (hapart : (parts.map Prod.fst).Pairwise Label.Apart) {entry : Document × Document}
    (hentry : entry ∈ entries) :
    ∃ label ∈ parts.map Prod.fst, ∃ name document,
      entry.1 = .text name ∧ label.find? entries = some (name, document) := by
  induction h with
  | nil => exact absurd hentry List.not_mem_nil
  | @part label name document parts before after hname hothers ih =>
      obtain ⟨hfirst, hrest⟩ := List.pairwise_cons.1 hapart
      have hkept : entry ∈ before ++ after →
          ∃ other ∈ label :: parts.map Prod.fst, ∃ found value, entry.1 = .text found ∧
            other.find? (before ++ (.text name, document) :: after) = some (found, value) := by
        intro hmem
        obtain ⟨other, hother, found, value, hkey, hfound⟩ := ih hrest hmem
        rw [← Label.find?_inserted_of_not_names (hfirst other hother name hname)] at hfound
        exact ⟨other, List.mem_cons_of_mem _ hother, found, value, hkey, hfound⟩
      rcases List.mem_append.1 hentry with hbefore | hinserted
      · exact hkept (List.mem_append_left _ hbefore)
      · rcases List.mem_cons.1 hinserted with rfl | hafter
        · exact ⟨label, List.mem_cons_self, name, document, rfl,
            Label.find?_inserted_self hname (hothers.find?_eq_none hfirst)⟩
        · exact hkept (List.mem_append_right _ hafter)
  | leftOut hothers ih =>
      obtain ⟨other, hother, hfound⟩ := ih (List.pairwise_cons.1 hapart).2 hentry
      exact ⟨other, List.mem_cons_of_mem _ hother, hfound⟩

/-- Parts under their wire names. -/
theorem entriesOf_map (parts : List (Label × Document)) :
    Given (parts.map fun part => (part.1, some part.2))
      (Document.entriesOf (parts.map fun part => (part.1.wire, part.2))) := by
  induction parts with
  | nil => exact .nil
  | cons part parts ih => exact .cons (.inl rfl) ih

/-- Parts under their wire names, those that are null left out. -/
theorem entriesOf_dropNulls (parts : List (Label × Document)) :
    Given (parts.map fun part => (part.1, part.2.unlessNull))
      (Document.entriesOf (Document.dropNulls
        (parts.map fun part => (part.1.wire, part.2)))) := by
  induction parts with
  | nil => exact .nil
  | cons part parts ih =>
      obtain ⟨label, document⟩ := part
      cases document with
      | null => exact .leftOut ih
      | _ => exact .cons (.inl rfl) ih

/-! ## Reading what was given -/

variable {α : Type} {read : Document → Reading α} {value : α}

theorem required (h : Given parts entries)
    (hapart : (parts.map Prod.fst).Pairwise Label.Apart)
    (hpart : (label, some document) ∈ parts) (hread : read document = .ok value) :
    label.required entries read = .ok value := by
  obtain ⟨name, hfound⟩ := h.find?_of_mem hapart hpart
  rw [Option.map_some] at hfound
  simp only [Label.required, hfound, hread, Reading.under_ok]

theorem optional {absent : α} {written : Document → Prop} {isDefault : Prop}
    (h : Given parts entries) (hapart : (parts.map Prod.fst).Pairwise Label.Apart)
    (hpart : (label, part) ∈ parts) (hgiven : Optionally written isDefault part)
    (hread : ∀ document, written document → read document = .ok value)
    (hdefault : isDefault → value = absent) : label.optional entries absent read = .ok value := by
  obtain ⟨name, hfound⟩ := h.find?_of_mem hapart hpart
  cases hgiven with
  | given hwritten =>
      rw [Option.map_some] at hfound
      simp only [Label.optional, hfound, hread _ hwritten, Reading.under_ok]
  | leftOut habsent =>
      rw [Option.map_none] at hfound
      simp only [Label.optional, hfound, hdefault habsent]

theorem noStrangers (h : Given parts entries)
    (hapart : (parts.map Prod.fst).Pairwise Label.Apart) :
    Reading.noStrangers (parts.map Prod.fst) entries = .ok () := by
  have hnone : entries.filterMap (fun entry =>
      (Reading.strangerCause? ((parts.map Prod.fst).filterMap fun label =>
        (label.find? entries).map (·.1)) entry.1).map fun cause =>
          Issue.mk [Document.keyStep entry.1] cause) = [] := by
    rw [List.filterMap_eq_nil_iff]
    intro entry hentry
    obtain ⟨label, hlabel, name, document, hkey, hfound⟩ := h.exists_find?_of_mem hapart hentry
    have hused : name ∈ (parts.map Prod.fst).filterMap fun label =>
        (label.find? entries).map (·.1) := by
      refine List.mem_filterMap.2 ⟨label, hlabel, ?_⟩
      rw [hfound, Option.map_some]
    rw [hkey, Reading.strangerCause?, if_pos (List.contains_iff_mem.2 hused)]
    rfl
  rw [Reading.noStrangers, hnone]

/-- What was given has no strangers. -/
theorem sealed (h : Given parts entries)
    (hapart : (parts.map Prod.fst).Pairwise Label.Apart) (value : α) :
    (Reading.ok value).sealed (parts.map Prod.fst) entries = .ok value := by
  rw [Reading.sealed, h.noStrangers hapart]
  rfl

theorem find?_tag {key : String} (h : Given ((.same key, some document) :: parts) entries)
    (hapart : (Label.same key :: parts.map Prod.fst).Pairwise Label.Apart) :
    Document.find? key entries = some document := by
  obtain ⟨name, hfound⟩ := h.find?_of_mem hapart List.mem_cons_self
  rw [Label.find?_same, Option.map_some, Option.map_eq_some_iff] at hfound
  obtain ⟨other, hother, heq⟩ := hfound
  rw [hother, (Prod.mk.inj heq).2]

end Given

/-! ## Tags -/

/-- What the tag of an object says. -/
def tagOf? {Tag : Type} (key : String) (tag? : String → Option Tag) (entries : Entries) :
    Option Tag :=
  (Document.find? key entries).bind (headTag? tag?)

namespace Reading

variable {Tag : Type} {tag? : String → Option Tag} {tag : Tag} {key name : String}
  {entries : Entries}

theorem tagged_of_tagOf? (h : tagOf? key tag? entries = some tag) :
    tagged key tag? (.object entries) = .ok (tag, entries) := by
  obtain ⟨name, hname, htag⟩ := Option.bind_eq_some_iff.1 h
  cases name with
  | text name =>
      change tag? name = some tag at htag
      simp only [tagged, hname, htag]
  | _ => exact nomatch htag

theorem tagged_of_tagOf?_eq_none (h : tagOf? key tag? entries = none) :
    ∃ cause, tagged key tag? (.object entries) = reject cause := by
  rw [tagged]
  cases hname : Document.find? key entries with
  | none => exact ⟨_, rfl⟩
  | some name =>
      rw [tagOf?, hname] at h
      cases name with
      | text name =>
          change tag? name = none at h
          exact ⟨.unionTagInvalid, by simp only [h]⟩
      | _ => exact ⟨_, rfl⟩

theorem tagged_of_find? (hname : Document.find? key entries = some (.text name))
    (htag : tag? name = some tag) : tagged key tag? (.object entries) = .ok (tag, entries) := by
  apply tagged_of_tagOf?
  rw [tagOf?, hname]
  exact htag

/-- A tagged node is read by the parts of the kind that its tag names. -/
theorem readNode_of_find? {α : Type} {value : α} {tagName : Tag → String}
    {readParts : Tag → Entries → Reading α}
    (hname : Document.find? key entries = some (.text name)) (htag : tag? name = some tag)
    (hparts : readParts tag entries = .ok value) :
    ((tagged key tag? (.object entries)).andThen fun (tag, entries) =>
      (readParts tag entries).under (tagName tag)) = .ok value := by
  rw [tagged_of_find? hname htag, ok_andThen]
  exact congrArg (Reading.under (tagName tag)) hparts

theorem items_ok {α : Type} (values : List α) : items (values.map Reading.ok) = .ok values := by
  have hfrom : ∀ index, itemsFrom index (values.map Reading.ok) = .ok values := by
    induction values with
    | nil => exact fun _ => rfl
    | cons value values ih =>
        intro index
        rw [List.map_cons, itemsFrom, ih]
        rfl
  exact hfrom 0

end Reading

end AnalyticsQuery
