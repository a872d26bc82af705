import AnalyticsQuery.Proofs.FilterText.Clauses
import AnalyticsQuery.Proofs.FilterText.Groups

/-!
# Reading filter text

The API knows no tree.  It cuts the text of a filter at every `;` that is not escaped, all
parts have to hold; it cuts each part at every `,` that is not escaped, one of the
alternatives has to hold; and one exclamation mark in front negates an alternative.
-/

namespace AnalyticsQuery.FilterText

/-- Cuts the rest of a text at one separator; `before` is what was read of it, its last
character first. -/
def cutAfter (separator : Char) (before : List Char) : List Char → List (List Char)
  | [] => [[]]
  | char :: chars =>
      if char = separator ∧ endsEscaping before = false then
        [] :: cutAfter separator (char :: before) chars
      else (cutAfter separator (char :: before) chars).modifyHead (char :: ·)

/-- Cuts a text at one separator, wherever no odd run of backslashes precedes it. -/
def cut (separator : Char) (text : List Char) : List (List Char) := cutAfter separator [] text

/-- Whether an alternative holds, if the texts of clauses have the given values. -/
def alternativeHolds (truth : String → Bool) : List Char → Bool
  | '!' :: clause => !truth (String.ofList clause)
  | clause => truth (String.ofList clause)

/-- Whether a filter text holds, if the texts of clauses have the given values. -/
def reads (truth : String → Bool) (text : String) : Bool :=
  (cut ';' text.toList).all fun conjunct => (cut ',' conjunct).any (alternativeHolds truth)

theorem alternativeHolds_of_head? {truth : String → Bool} {clause : List Char}
    (h : clause.head? ≠ some '!') :
    alternativeHolds truth clause = truth (String.ofList clause) := by
  unfold alternativeHolds
  split
  · exact absurd rfl h
  · rfl

/-! ## Cutting and splitting -/

/-- The text of the pieces between two separators. -/
def groupText (separator : Junction) (group : List (List Char)) : List Char :=
  [Chain.separator separator.other].intercalate group

theorem groupText_modifyHead {separator : Junction} {group : List (List Char)} (hne : group ≠ [])
    (char : Char) :
    groupText separator (group.modifyHead (char :: ·)) = char :: groupText separator group := by
  obtain ⟨piece, pieces, rfl⟩ := List.exists_cons_of_ne_nil hne
  cases pieces <;> rfl

theorem groupText_cons_nil {separator : Junction} {group : List (List Char)} (hne : group ≠ []) :
    groupText separator ([] :: group) =
      Chain.separator separator.other :: groupText separator group :=
  List.intercalate_cons_of_ne_nil hne

theorem Chain.groups_mapHead {α : Type} (separator : Junction) (f : α → α) (chain : Chain α) :
    (chain.mapHead f).groups separator =
      (chain.groups separator).modifyHead (List.modifyHead f) := by
  cases chain with
  | single piece => rfl
  | link piece junction rest =>
      obtain ⟨first, others, hrest⟩ := exists_groups_eq_cons separator rest
      rw [mapHead, groups, groups, hrest]
      split <;> rfl

theorem separator_injective {left right : Junction}
    (h : Chain.separator left = Chain.separator right) : left = right := by
  cases left <;> cases right <;> first | rfl | exact absurd h (by decide)

theorem junctionOf?_separator (junction : Junction) :
    junctionOf? (Chain.separator junction) = some junction := by
  cases junction <;> rfl

/-- Cutting at one separator leaves the texts of the groups between those separators. -/
theorem cutAfter_eq_map_groups (separator : Junction) (before chars : List Char) :
    cutAfter (Chain.separator separator) before chars =
      ((splitAfter before chars).groups separator).map (groupText separator) := by
  induction chars generalizing before with
  | nil => rfl
  | cons char chars ih =>
      obtain ⟨first, others, hgroups⟩ :=
        Chain.exists_groups_eq_cons separator (splitAfter (char :: before) chars)
      have hfirst : first ≠ [] := Chain.ne_nil_of_mem_groups (hgroups ▸ List.mem_cons_self)
      have hrest := ih (char :: before)
      rw [hgroups, List.map_cons] at hrest
      have hread : ((splitAfter (char :: before) chars).mapHead (char :: ·)).groups separator =
          first.modifyHead (char :: ·) :: others := by
        rw [Chain.groups_mapHead, hgroups, List.modifyHead_cons]
      rw [cutAfter, splitAfter, hrest]
      cases hjunction : (if endsEscaping before = true then none else junctionOf? char) with
      | none =>
          have hplain : ¬(char = Chain.separator separator ∧ endsEscaping before = false) := by
            rintro ⟨rfl, hunescaped⟩
            rw [hunescaped, if_neg Bool.false_ne_true, junctionOf?_separator] at hjunction
            exact Option.some_ne_none separator hjunction
          change _ = List.map _ (((splitAfter (char :: before) chars).mapHead _).groups separator)
          rw [if_neg hplain, hread, List.modifyHead_cons, List.map_cons,
            groupText_modifyHead hfirst]
      | some junction =>
          obtain ⟨hunescaped, hjunction⟩ := Option.ite_none_left_eq_some.1 hjunction
          obtain rfl := separator_of_junctionOf? hjunction
          change _ = List.map _ ((Chain.link [] junction
            (splitAfter (Chain.separator junction :: before) chars)).groups separator)
          rw [Chain.groups, hgroups]
          by_cases hsame : junction = separator
          · rw [if_pos ⟨congrArg Chain.separator hsame, Bool.eq_false_iff.2 hunescaped⟩,
              if_pos hsame]
            rfl
          · rw [if_neg fun h => hsame (separator_injective h.1), if_neg hsame,
              List.modifyHead_cons, List.modifyHead_cons, List.map_cons,
              groupText_cons_nil hfirst, ← Junction.eq_other_of_ne hsame]

theorem cut_eq_map_groups (separator : Junction) (text : List Char) :
    cut (Chain.separator separator) text =
      ((split text).groups separator).map (groupText separator) :=
  cutAfter_eq_map_groups separator [] text

/-- Cutting a group of closed pieces at the separators inside it gives the pieces back. -/
theorem cut_groupText {separator : Junction} {group : List (List Char)} (hne : group ≠ [])
    (hclosed : ∀ piece ∈ group, Closed piece) :
    cut (Chain.separator separator.other) (groupText separator group) = group := by
  obtain ⟨chain, hchain⟩ :
      ∃ chain, Chain.join separator.other (group.map Chain.single) = some chain := by
    rw [← Option.ne_none_iff_exists', Ne, Chain.join_eq_none_iff, List.map_eq_nil_iff]
    exact hne
  have htext : chain.text = groupText separator group := by
    have hjoin := Chain.text_join separator.other (group.map Chain.single)
    rw [hchain, List.map_map] at hjoin
    exact hjoin.trans (congrArg _ (List.map_id group))
  have hpieces : chain.pieces = group := by
    have hjoin := Chain.piecesIn_join separator.other (group.map Chain.single)
    rw [hchain, List.flatMap_map] at hjoin
    exact hjoin.trans (List.flatMap_singleton' group)
  have hgroups : chain.groups separator.other = group.map fun piece => [piece] := by
    rw [Chain.groups_join_self hchain, List.flatMap_map]
    exact (List.map_eq_flatMap).symm
  have hsingle : groupText separator.other ∘ (fun piece => [piece]) = id := by
    funext piece
    rw [Function.comp_apply, groupText, List.intercalate_singleton, id]
  rw [cut_eq_map_groups, ← htext, split_text (hpieces ▸ hclosed), hgroups, List.map_map, hsingle,
    List.map_id]

/-! ## Reading what was written -/

/-- Whether a chain of pieces holds, if each piece is read as an alternative. -/
def Chain.reads (truth : String → Bool) (chain : Chain Piece) : Bool :=
  (chain.groups .and).all fun group => group.any fun piece => alternativeHolds truth piece.text

/-- The two cuts of a text leave the groups of its chain. -/
theorem map_cut_write (chain : Chain Piece) :
    (cut ';' chain.write.toList).map (cut ',') = (chain.groups .and).map (List.map Piece.text) := by
  have hconjuncts : cut ';' chain.write.toList =
      ((chain.groups .and).map (List.map Piece.text)).map (groupText .and) := by
    rw [← Chain.groups_map, ← Chain.split_write]
    exact cut_eq_map_groups .and chain.write.toList
  rw [hconjuncts, List.map_map, List.map_map]
  apply List.map_congr_left
  intro group hgroup
  have hne : group.map Piece.text ≠ [] := by
    rw [Ne, List.map_eq_nil_iff]
    exact Chain.ne_nil_of_mem_groups hgroup
  have hclosed : ∀ text ∈ group.map Piece.text, Closed text := by
    intro text htext
    obtain ⟨piece, _, rfl⟩ := List.mem_map.1 htext
    exact piece.closed_text
  exact @cut_groupText .and _ hne hclosed

/-- The text of a chain is read as the chain. -/
theorem reads_write (truth : String → Bool) (chain : Chain Piece) :
    reads truth chain.write = chain.reads truth := by
  calc
    reads truth chain.write =
        ((cut ';' chain.write.toList).map (cut ',')).all (·.any (alternativeHolds truth)) := by
      rw [List.all_map]
      rfl
    _ = ((chain.groups .and).map (List.map Piece.text)).all
          (·.any (alternativeHolds truth)) := by rw [map_cut_write]
    _ = chain.reads truth := by
      rw [List.all_map]
      exact List.all_congr rfl fun group => List.any_map

end AnalyticsQuery.FilterText
