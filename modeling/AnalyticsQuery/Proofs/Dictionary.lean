import AnalyticsQuery.Dictionary
import Mathlib.Data.List.Basic

/-!
# Looking up entries

What is found under a key in a list of entries, and after one more entry is stored.
-/

namespace AnalyticsQuery

variable {Key Value : Type} [DecidableEq Key]

theorem lookup_cons_ite (key other : Key) (value : Value) (entries : List (Key × Value)) :
    ((key, value) :: entries).lookup other =
      if other = key then some value else entries.lookup other := by
  rw [List.lookup_cons]
  by_cases hother : other = key
  · rw [if_pos hother, beq_iff_eq.2 hother]
  · rw [if_neg hother, beq_eq_false_iff_ne.2 hother]

theorem lookup_storeEntry (key other : Key) (value : Value) (entries : List (Key × Value)) :
    (storeEntry key value entries).lookup other =
      if other = key then some value else entries.lookup other := by
  induction entries with
  | nil => rw [storeEntry, lookup_cons_ite]
  | cons entry entries ih =>
      obtain ⟨known, old⟩ := entry
      rw [storeEntry, lookup_cons_ite]
      by_cases hknown : known = key
      · rw [if_pos hknown, lookup_cons_ite, hknown]
        by_cases hother : other = key
        · rw [if_pos hother, if_pos hother]
        · rw [if_neg hother, if_neg hother, if_neg hother]
      · rw [if_neg hknown, lookup_cons_ite, ih]
        by_cases hother : other = known
        · rw [if_pos hother, if_pos hother, if_neg fun h => hknown (hother.symm.trans h)]
        · rw [if_neg hother, if_neg hother]

theorem lookup_eq_none_of_forall_ne {key : Key} {entries : List (Key × Value)}
    (h : ∀ entry ∈ entries, entry.1 ≠ key) : entries.lookup key = none := by
  induction entries with
  | nil => rfl
  | cons entry entries ih =>
      obtain ⟨hentry, hrest⟩ := List.forall_mem_cons.1 h
      rw [lookup_cons_ite, if_neg (Ne.symm hentry), ih hrest]

/-- Entries under other keys can be left out. -/
theorem lookup_filter_of_pos (entries : List (Key × Value)) (keep : Key → Bool) {key : Key}
    (h : keep key = true) :
    (entries.filter fun entry => keep entry.1).lookup key = entries.lookup key := by
  induction entries with
  | nil => rfl
  | cons entry entries ih =>
      obtain ⟨known, value⟩ := entry
      rw [List.filter_cons]
      by_cases hknown : keep known = true
      · rw [if_pos hknown, lookup_cons_ite, lookup_cons_ite, ih]
      · have hne : key ≠ known := by
          rintro rfl
          exact hknown h
        rw [if_neg hknown, lookup_cons_ite, if_neg hne, ih]

/-- What has other keys is passed over when an entry is stored. -/
theorem storeEntry_append {key : Key} {before : List (Key × Value)}
    (h : key ∉ before.map Prod.fst) (value : Value) (after : List (Key × Value)) :
    storeEntry key value (before ++ after) = before ++ storeEntry key value after := by
  induction before with
  | nil => rfl
  | cons entry before ih =>
      rw [List.map_cons, List.mem_cons, not_or] at h
      obtain ⟨hentry, hrest⟩ := h
      rw [List.cons_append, storeEntry, if_neg (Ne.symm hentry), ih hrest, List.cons_append]

/-- Under a new key an entry is stored behind the others. -/
theorem storeEntry_of_not_mem {key : Key} {entries : List (Key × Value)}
    (h : key ∉ entries.map Prod.fst) (value : Value) :
    storeEntry key value entries = entries ++ [(key, value)] := by
  have happend := storeEntry_append h value []
  rwa [List.append_nil] at happend

theorem mem_of_lookup {key : Key} {value : Value} {entries : List (Key × Value)}
    (h : entries.lookup key = some value) : (key, value) ∈ entries := by
  obtain ⟨before, after, rfl, _⟩ := List.lookup_eq_some_iff.1 h
  exact List.mem_append_cons_self

theorem lookup_eq_some_iff_mem {key : Key} {value : Value} {entries : List (Key × Value)}
    (hdistinct : (entries.map Prod.fst).Nodup) :
    entries.lookup key = some value ↔ (key, value) ∈ entries := by
  induction entries with
  | nil => simp
  | cons entry entries ih =>
      obtain ⟨known, old⟩ := entry
      obtain ⟨hfirst, hothers⟩ := List.nodup_cons.1 hdistinct
      rw [lookup_cons_ite, List.mem_cons, Prod.mk.injEq]
      by_cases hkey : key = known
      · have hnotin : (key, value) ∉ entries := by
          intro hmem
          exact hfirst (List.mem_map.2 ⟨_, hmem, hkey⟩)
        rw [if_pos hkey, Option.some.injEq]
        constructor
        · exact fun hold => .inl ⟨hkey, hold.symm⟩
        · rintro (⟨_, hvalue⟩ | hmem)
          · exact hvalue.symm
          · exact absurd hmem hnotin
      · rw [if_neg hkey, ih hothers]
        constructor
        · exact .inr
        · rintro (⟨hsame, _⟩ | hmem)
          · exact absurd hsame hkey
          · exact hmem

end AnalyticsQuery
