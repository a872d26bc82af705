import Mathlib.Data.List.Forall2

/-!
# Computations that may fail

What a chain of fallible steps, and a fallible step for each item of a list, must
have done when the whole succeeds or fails.
-/

namespace AnalyticsQuery.Fallible

variable {ε α β : Type}

theorem bind_eq_ok_iff {first : Except ε α} {next : α → Except ε β} {result : β} :
    (first >>= next) = .ok result ↔ ∃ value, first = .ok value ∧ next value = .ok result := by
  cases first with
  | error error =>
      constructor
      · intro h
        cases h
      · rintro ⟨_, h, _⟩
        cases h
  | ok value =>
      constructor
      · intro h
        exact ⟨value, rfl, h⟩
      · rintro ⟨_, ⟨⟩, h⟩
        exact h

theorem bind_eq_error_iff {first : Except ε α} {next : α → Except ε β} {error : ε} :
    (first >>= next) = .error error ↔
      first = .error error ∨ ∃ value, first = .ok value ∧ next value = .error error := by
  cases first with
  | error other =>
      constructor
      · intro h
        exact .inl (congrArg Except.error (Except.error.inj h))
      · rintro (h | ⟨_, h, _⟩)
        · exact congrArg Except.error (Except.error.inj h)
        · cases h
  | ok value =>
      constructor
      · intro h
        exact .inr ⟨value, rfl, h⟩
      · rintro (h | ⟨_, ⟨⟩, h⟩)
        · cases h
        · exact h

theorem exists_bind_eq_ok_iff {first : Except ε α} {next : α → Except ε β} :
    (∃ result, (first >>= next) = .ok result) ↔
      ∃ value, first = .ok value ∧ ∃ result, next value = .ok result := by
  constructor
  · rintro ⟨result, h⟩
    obtain ⟨value, hfirst, hnext⟩ := bind_eq_ok_iff.1 h
    exact ⟨value, hfirst, result, hnext⟩
  · rintro ⟨value, hfirst, result, hnext⟩
    exact ⟨result, bind_eq_ok_iff.2 ⟨value, hfirst, hnext⟩⟩

theorem mapM_eq_ok_iff {step : α → Except ε β} {items : List α} {results : List β} :
    items.mapM step = .ok results ↔
      List.Forall₂ (fun item result => step item = .ok result) items results := by
  induction items generalizing results with
  | nil =>
      rw [List.mapM_nil, List.forall₂_nil_left_iff]
      exact ⟨fun h => (Except.ok.inj h).symm, fun h => congrArg Except.ok h.symm⟩
  | cons item items ih =>
      rw [List.mapM_cons, bind_eq_ok_iff, List.forall₂_cons_left_iff]
      constructor
      · rintro ⟨result, hitem, hrest⟩
        obtain ⟨rest, hitems, hresults⟩ := bind_eq_ok_iff.1 hrest
        exact ⟨result, rest, hitem, ih.1 hitems, (Except.ok.inj hresults).symm⟩
      · rintro ⟨result, rest, hitem, hitems, rfl⟩
        exact ⟨result, hitem, bind_eq_ok_iff.2 ⟨rest, ih.2 hitems, rfl⟩⟩

/-- Steps that agree on items which correspond give the same results, errors included. -/
theorem mapM_eq_of_forall₂ {γ : Type} {step : α → Except ε β} {other : γ → Except ε β}
    {items : List α} {others : List γ}
    (h : List.Forall₂ (fun item partner => step item = other partner) items others) :
    items.mapM step = others.mapM other := by
  induction h with
  | nil => rfl
  | cons hitem _ ih => rw [List.mapM_cons, List.mapM_cons, hitem, ih]

theorem mapM_congr {step other : α → Except ε β} {items : List α}
    (h : ∀ item ∈ items, step item = other item) : items.mapM step = items.mapM other :=
  mapM_eq_of_forall₂ (List.forall₂_same.2 h)

theorem exists_ok_mapM {step : α → Except ε β} {items : List α}
    (hitems : ∀ item ∈ items, ∃ result, step item = .ok result) :
    ∃ results, items.mapM step = .ok results := by
  induction items with
  | nil => exact ⟨[], rfl⟩
  | cons item items ih =>
      obtain ⟨result, hresult⟩ := hitems item List.mem_cons_self
      obtain ⟨results, hresults⟩ :=
        ih fun other hother => hitems other (List.mem_cons_of_mem _ hother)
      refine ⟨result :: results, ?_⟩
      rw [mapM_eq_ok_iff] at hresults ⊢
      exact .cons hresult hresults

theorem exists_ok_of_mem {step : α → Except ε β} {items : List α} {results : List β}
    (h : items.mapM step = .ok results) {item : α} (hitem : item ∈ items) :
    ∃ result, step item = .ok result := by
  rw [mapM_eq_ok_iff] at h
  induction h with
  | nil => exact absurd hitem List.not_mem_nil
  | cons hhead _ ih =>
      rcases List.mem_cons.1 hitem with rfl | hrest
      · exact ⟨_, hhead⟩
      · exact ih hrest

/-- The error of a list of steps is that of the first one that fails. -/
theorem mapM_eq_error_iff {step : α → Except ε β} {items : List α} {error : ε} :
    items.mapM step = .error error ↔
      ∃ before item after, items = before ++ item :: after ∧
        (∀ earlier ∈ before, ∃ result, step earlier = .ok result) ∧ step item = .error error := by
  induction items with
  | nil =>
      apply iff_of_false nofun
      rintro ⟨before, item, after, hitems, _⟩
      exact List.append_ne_nil_of_right_ne_nil before (List.cons_ne_nil item after) hitems.symm
  | cons item items ih =>
      rw [List.mapM_cons, bind_eq_error_iff]
      constructor
      · rintro (hitem | ⟨result, hitem, hrest⟩)
        · exact ⟨[], item, items, rfl, fun _ hnone => absurd hnone List.not_mem_nil, hitem⟩
        · rcases bind_eq_error_iff.1 hrest with hitems | ⟨_, _, himpossible⟩
          · obtain ⟨before, failing, after, rfl, hbefore, hfailing⟩ := ih.1 hitems
            exact ⟨item :: before, failing, after, rfl,
              List.forall_mem_cons.2 ⟨⟨result, hitem⟩, hbefore⟩, hfailing⟩
          · exact nomatch himpossible
      · rintro ⟨before, failing, after, hitems, hbefore, hfailing⟩
        cases before with
        | nil =>
            obtain ⟨rfl, rfl⟩ := List.cons.inj hitems
            exact .inl hfailing
        | cons first before =>
            obtain ⟨rfl, rfl⟩ := List.cons.inj hitems
            obtain ⟨⟨result, hitem⟩, hbefore⟩ := List.forall_mem_cons.1 hbefore
            have hrest := ih.2 ⟨before, failing, after, rfl, hbefore, hfailing⟩
            exact .inr ⟨result, hitem, bind_eq_error_iff.2 (.inl hrest)⟩

theorem exists_error_of_mapM {step : α → Except ε β} {items : List α} {error : ε}
    (h : items.mapM step = .error error) : ∃ item ∈ items, step item = .error error := by
  obtain ⟨before, item, after, rfl, _, hitem⟩ := mapM_eq_error_iff.1 h
  exact ⟨item, List.mem_append_right before List.mem_cons_self, hitem⟩

/-! ## Errors of one kind -/

/-! ## Errors of another kind -/

section MapError

variable {ζ : Type} (wrap : ε → ζ)

theorem mapError_bind (first : Except ε α) (next : α → Except ε β) :
    (first >>= next).mapError wrap =
      first.mapError wrap >>= fun value => (next value).mapError wrap := by
  cases first <;> rfl

theorem mapError_mapM (step : α → Except ε β) (items : List α) :
    (items.mapM step).mapError wrap = items.mapM fun item => (step item).mapError wrap := by
  induction items with
  | nil => rfl
  | cons item items ih =>
      rw [List.mapM_cons, List.mapM_cons, mapError_bind]
      simp only [mapError_bind, ih]
      rfl

theorem mapError_foldlM (step : β → α → Except ε β) (items : List α) (start : β) :
    (items.foldlM step start).mapError wrap =
      items.foldlM (fun result item => (step result item).mapError wrap) start := by
  induction items generalizing start with
  | nil => rfl
  | cons item items ih =>
      rw [List.foldlM_cons, List.foldlM_cons, mapError_bind]
      simp only [ih]

end MapError

/-- Whether a computation, if it fails, does so with an error of some kind. -/
def FailsOnly (kind : ε → Prop) (result : Except ε α) : Prop :=
  ∀ error, result = .error error → kind error

namespace FailsOnly

variable {kind : ε → Prop}

theorem ok (value : α) : FailsOnly kind (.ok value) :=
  fun _ h => nomatch h

theorem error {error : ε} (h : kind error) :
    FailsOnly kind (.error error : Except ε α) := by
  intro found hfound
  rw [← Except.error.inj hfound]
  exact h

theorem imp {other : ε → Prop} {result : Except ε α} (h : FailsOnly kind result)
    (himp : ∀ error, kind error → other error) : FailsOnly other result :=
  fun error herror => himp error (h error herror)

theorem bind {first : Except ε α} {next : α → Except ε β} (hfirst : FailsOnly kind first)
    (hnext : ∀ value, FailsOnly kind (next value)) : FailsOnly kind (first >>= next) := by
  intro error h
  rcases bind_eq_error_iff.1 h with herror | ⟨value, _, herror⟩
  · exact hfirst error herror
  · exact hnext value error herror

theorem mapM {step : α → Except ε β} {items : List α}
    (h : ∀ item ∈ items, FailsOnly kind (step item)) : FailsOnly kind (items.mapM step) := by
  intro error herror
  obtain ⟨item, hitem, hstep⟩ := exists_error_of_mapM herror
  exact h item hitem error hstep

theorem foldlM {step : β → α → Except ε β} (items : List α)
    (h : ∀ result item, FailsOnly kind (step result item)) (start : β) :
    FailsOnly kind (items.foldlM step start) := by
  induction items generalizing start with
  | nil => exact ok start
  | cons item items ih =>
      rw [List.foldlM_cons]
      exact (h start item).bind ih

end FailsOnly

end AnalyticsQuery.Fallible
