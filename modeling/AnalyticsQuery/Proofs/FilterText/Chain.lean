import AnalyticsQuery.Compile.FilterText

/-!
# Chains of pieces

Filter text is flat: pieces, with a separator between each two neighbours.  A chain
holds the pieces together with the junctions that the separators stand for.
-/

namespace AnalyticsQuery.FilterText

/-- Pieces in a row, with a junction between each two neighbours. -/
inductive Chain (α : Type) where
  | single (piece : α)
  | link (piece : α) (junction : Junction) (rest : Chain α)

namespace Chain

variable {α β : Type}

def pieces : Chain α → List α
  | single piece => [piece]
  | link piece _ rest => piece :: rest.pieces

def junctions : Chain α → List Junction
  | single _ => []
  | link _ junction rest => junction :: rest.junctions

def map (f : α → β) : Chain α → Chain β
  | single piece => single (f piece)
  | link piece junction rest => link (f piece) junction (rest.map f)

/-- Changes the first piece only. -/
def mapHead (f : α → α) : Chain α → Chain α
  | single piece => single (f piece)
  | link piece junction rest => link (f piece) junction rest

def append (junction : Junction) : Chain α → Chain α → Chain α
  | single piece, right => link piece junction right
  | link piece inner rest, right => link piece inner (append junction rest right)

/-- Several chains in a row, with the same junction between each two. -/
def join (junction : Junction) : List (Chain α) → Option (Chain α)
  | [] => none
  | chain :: chains =>
      match join junction chains with
      | none => some chain
      | some rest => some (append junction chain rest)

def piecesIn (chain : Option (Chain α)) : List α := chain.elim [] pieces

def junctionsIn (chain : Option (Chain α)) : List Junction := chain.elim [] junctions

@[simp]
theorem pieces_append (junction : Junction) (left right : Chain α) :
    (append junction left right).pieces = left.pieces ++ right.pieces := by
  induction left with
  | single piece => rfl
  | link piece inner rest ih => rw [append, pieces, ih, pieces, List.cons_append]

@[simp]
theorem junctions_append (junction : Junction) (left right : Chain α) :
    (append junction left right).junctions =
      left.junctions ++ junction :: right.junctions := by
  induction left with
  | single piece => rfl
  | link piece inner rest ih => rw [append, junctions, ih, junctions, List.cons_append]

@[simp]
theorem junctions_mapHead (f : α → α) (chain : Chain α) :
    (mapHead f chain).junctions = chain.junctions := by
  cases chain <;> rfl

@[simp]
theorem pieces_map (f : α → β) (chain : Chain α) :
    (map f chain).pieces = chain.pieces.map f := by
  induction chain with
  | single piece => rfl
  | link piece junction rest ih => rw [map, pieces, ih, pieces, List.map_cons]

@[simp]
theorem junctions_map (f : α → β) (chain : Chain α) :
    (map f chain).junctions = chain.junctions := by
  induction chain with
  | single piece => rfl
  | link piece junction rest ih => rw [map, junctions, ih, junctions]

@[simp]
theorem map_append (f : α → β) (junction : Junction) (left right : Chain α) :
    map f (append junction left right) = append junction (map f left) (map f right) := by
  induction left with
  | single piece => rfl
  | link piece inner rest ih => rw [append, map, ih, map, append]

theorem map_map {γ : Type} (f : α → β) (g : β → γ) (chain : Chain α) :
    (chain.map f).map g = chain.map (g ∘ f) := by
  induction chain with
  | single piece => rfl
  | link piece junction rest ih => rw [map, map, ih, map, Function.comp_apply]

theorem map_mapHead {f : α → β} {g : α → α} {h : β → β}
    (hcommute : ∀ piece, f (g piece) = h (f piece)) (chain : Chain α) :
    map f (mapHead g chain) = mapHead h (map f chain) := by
  cases chain with
  | single piece => exact congrArg single (hcommute piece)
  | link piece junction rest =>
      exact congrArg (fun first => link first junction (map f rest)) (hcommute piece)

theorem map_join (f : α → β) (junction : Junction) (chains : List (Chain α)) :
    (join junction chains).map (map f) = join junction (chains.map (map f)) := by
  induction chains with
  | nil => rfl
  | cons chain chains ih =>
      rw [join, List.map_cons, join, ← ih]
      cases join junction chains with
      | none => rfl
      | some rest => exact congrArg some (map_append f junction chain rest)

theorem piecesIn_join (junction : Junction) (chains : List (Chain α)) :
    piecesIn (join junction chains) = chains.flatMap pieces := by
  induction chains with
  | nil => rfl
  | cons chain chains ih =>
      rw [join, List.flatMap_cons, ← ih]
      cases join junction chains with
      | none => exact (List.append_nil _).symm
      | some rest => exact pieces_append junction chain rest

theorem join_eq_none_iff {junction : Junction} {chains : List (Chain α)} :
    join junction chains = none ↔ chains = [] := by
  cases chains with
  | nil => exact iff_of_true rfl rfl
  | cons chain chains =>
      apply iff_of_false _ (List.cons_ne_nil _ _)
      rw [join]
      cases join junction chains <;> exact Option.some_ne_none _

/-- The junctions of a chain in front of others. -/
theorem junctionsIn_join_cons (junction : Junction) (chain : Chain α)
    {chains : List (Chain α)} (hne : chains ≠ []) :
    junctionsIn (join junction (chain :: chains)) =
      chain.junctions ++ junction :: junctionsIn (join junction chains) := by
  rw [join]
  cases hrest : join junction chains with
  | none => exact absurd (join_eq_none_iff.1 hrest) hne
  | some rest => exact junctions_append junction chain rest

theorem pieces_ne_nil (chain : Chain α) : chain.pieces ≠ [] := by
  cases chain <;> exact List.cons_ne_nil _ _

/-! ## Text -/

/-- The character between two pieces that a junction joins. -/
def separator : Junction → Char
  | .and => ';'
  | .or => ','

/-- The pieces with the separators between them. -/
def text : Chain (List Char) → List Char
  | single piece => piece
  | link piece junction rest => piece ++ separator junction :: rest.text

theorem toList_separator (junction : Junction) :
    junction.separator.toList = [separator junction] := by
  cases junction <;> rfl

@[simp]
theorem text_append (junction : Junction) (left right : Chain (List Char)) :
    (append junction left right).text = left.text ++ separator junction :: right.text := by
  induction left with
  | single piece => rfl
  | link piece inner rest ih => rw [append, text, ih, text, List.append_assoc, List.cons_append]

@[simp]
theorem text_mapHead (char : Char) (chain : Chain (List Char)) :
    (mapHead (char :: ·) chain).text = char :: chain.text := by
  cases chain <;> rfl

theorem mem_text {chain : Chain (List Char)} {piece : List Char} (hpiece : piece ∈ chain.pieces)
    {char : Char} (hchar : char ∈ piece) : char ∈ chain.text := by
  induction chain with
  | single only => rwa [← List.mem_singleton.1 hpiece]
  | link first junction rest ih =>
      rcases List.mem_cons.1 hpiece with rfl | hrest
      · exact List.mem_append_left _ hchar
      · exact List.mem_append_right _ (List.mem_cons_of_mem _ (ih hrest))

/-- Joining chains joins their texts by the separator. -/
theorem text_join (junction : Junction) (chains : List (Chain (List Char))) :
    ((join junction chains).elim [] text) =
      [separator junction].intercalate (chains.map text) := by
  induction chains with
  | nil => rfl
  | cons chain chains ih =>
      rw [join, List.map_cons]
      cases hrest : join junction chains with
      | none =>
          rw [join_eq_none_iff.1 hrest, List.map_nil, List.intercalate_singleton]
          rfl
      | some rest =>
          have hne : chains.map text ≠ [] := by
            rintro hnil
            rw [List.map_eq_nil_iff.1 hnil] at hrest
            exact nomatch hrest
          rw [List.intercalate_cons_of_ne_nil hne, ← ih, hrest]
          simp

end Chain

end AnalyticsQuery.FilterText
