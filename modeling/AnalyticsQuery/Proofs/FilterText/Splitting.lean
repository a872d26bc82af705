import AnalyticsQuery.Proofs.FilterText.Chain

/-!
# Splitting filter text

Filter text is split at every `;` and `,` that no odd run of backslashes precedes.
Pieces whose own special characters are escaped are read through, so that splitting
recovers any chain of them from its text, whatever characters they contain.
-/

namespace AnalyticsQuery.FilterText

/-- Whether a text ends with an odd run of backslashes; its last character comes first. -/
def endsEscaping (before : List Char) : Bool :=
  (before.takeWhile (· = '\\')).length % 2 = 1

/-- The junction that a separator stands for. -/
def junctionOf? : Char → Option Junction
  | ';' => some .and
  | ',' => some .or
  | _ => none

/-- Splits the rest of a text; `before` is what was read of it, its last character first. -/
def splitAfter (before : List Char) : List Char → Chain (List Char)
  | [] => .single []
  | char :: chars =>
      match if endsEscaping before then none else junctionOf? char with
      | some junction => .link [] junction (splitAfter (char :: before) chars)
      | none => (splitAfter (char :: before) chars).mapHead (char :: ·)

/-- Splits a text at every separator that no odd run of backslashes precedes. -/
def split (text : List Char) : Chain (List Char) := splitAfter [] text

/-- Takes the backslash from every escaped character. -/
def unescape : List Char → List Char
  | '\\' :: char :: chars => char :: unescape chars
  | char :: chars => char :: unescape chars
  | [] => []

theorem endsEscaping_cons (char : Char) (before : List Char) :
    endsEscaping (char :: before) = (decide (char = '\\') && !endsEscaping before) := by
  unfold endsEscaping
  rw [List.takeWhile_cons]
  by_cases hchar : char = '\\'
  · rw [if_pos (by simpa using hchar), List.length_cons, decide_eq_true hchar, Bool.true_and,
      ← decide_not]
    apply decide_eq_decide.2
    omega
  · rw [if_neg (by simpa using hchar), decide_eq_false hchar]
    rfl

/-- Of what was read, only whether it ends with an odd run of backslashes counts. -/
theorem splitAfter_congr {left right : List Char}
    (h : endsEscaping left = endsEscaping right) (chars : List Char) :
    splitAfter left chars = splitAfter right chars := by
  induction chars generalizing left right with
  | nil => rfl
  | cons char chars ih =>
      have hnext : endsEscaping (char :: left) = endsEscaping (char :: right) := by
        rw [endsEscaping_cons, endsEscaping_cons, h]
      rw [splitAfter, splitAfter, h, ih hnext]

theorem splitAfter_eq_split {before : List Char} (h : endsEscaping before = false)
    (chars : List Char) : splitAfter before chars = split chars := splitAfter_congr h chars

theorem separator_of_junctionOf? {char : Char} {junction : Junction}
    (h : junctionOf? char = some junction) : Chain.separator junction = char := by
  unfold junctionOf? at h
  split at h
  · rw [← Option.some.inj h]
    rfl
  · rw [← Option.some.inj h]
    rfl
  · exact nomatch h

theorem text_splitAfter (before chars : List Char) : (splitAfter before chars).text = chars := by
  induction chars generalizing before with
  | nil => rfl
  | cons char chars ih =>
      rw [splitAfter]
      split
      · rename_i junction hjunction
        have hseparator : junctionOf? char = some junction := by
          split at hjunction
          · exact nomatch hjunction
          · exact hjunction
        rw [Chain.text, ih, separator_of_junctionOf? hseparator, List.nil_append]
      · rw [Chain.text_mapHead, ih]

/-- Splitting loses nothing. -/
theorem text_split (chars : List Char) : (split chars).text = chars := text_splitAfter [] chars

/-! ## Pieces that are read through -/

/-- A piece that a splitter reads through up to whatever follows. -/
def Closed (piece : List Char) : Prop :=
  ∀ rest, split (piece ++ rest) = (split rest).mapHead (piece ++ ·)

theorem mapHead_mapHead {α : Type} (f g : α → α) (chain : Chain α) :
    (chain.mapHead g).mapHead f = chain.mapHead fun piece => f (g piece) := by
  cases chain <;> rfl

theorem closed_nil : Closed [] := by
  intro rest
  change split rest = (split rest).mapHead id
  cases split rest <;> rfl

theorem Closed.append {left right : List Char} (hleft : Closed left) (hright : Closed right) :
    Closed (left ++ right) := by
  intro rest
  rw [List.append_assoc, hleft, hright, mapHead_mapHead]
  simp only [List.append_assoc]

theorem closed_plain {char : Char} (hseparator : junctionOf? char = none)
    (hbackslash : char ≠ '\\') : Closed [char] := by
  intro rest
  have hends : endsEscaping [char] = false := by
    rw [endsEscaping_cons, decide_eq_false hbackslash, Bool.false_and]
  rw [← splitAfter_eq_split hends rest]
  change splitAfter [] (char :: rest) = _
  rw [splitAfter, hseparator, ite_self]
  rfl

theorem closed_escaped (char : Char) : Closed ['\\', char] := by
  intro rest
  have hends : endsEscaping [char, '\\'] = false := by
    rw [endsEscaping_cons]
    exact Bool.and_false _
  rw [← splitAfter_eq_split hends rest]
  change splitAfter [] ('\\' :: char :: rest) = _
  rw [splitAfter, show (if endsEscaping [] = true then none else junctionOf? '\\') = none from rfl,
    splitAfter, show endsEscaping ['\\'] = true from rfl, if_pos rfl]
  exact mapHead_mapHead ('\\' :: ·) (char :: ·) _

theorem junctionOf?_eq_none {char : Char} (h : char ∉ clauseCharacters) :
    junctionOf? char = none := by
  unfold junctionOf?
  split
  · exact absurd (by decide) h
  · exact absurd (by decide) h
  · rfl

theorem escapeChars_cons (special : List Char) (char : Char) (chars : List Char) :
    escapeChars special (char :: chars) =
      (if char ∈ special then ['\\', char] else [char]) ++ escapeChars special chars :=
  List.flatMap_cons

theorem closed_escapeChars (chars : List Char) : Closed (escapeChars clauseCharacters chars) := by
  induction chars with
  | nil => exact closed_nil
  | cons char chars ih =>
      rw [escapeChars_cons]
      refine Closed.append ?_ ih
      split
      · exact closed_escaped char
      · rename_i hplain
        exact closed_plain (junctionOf?_eq_none hplain) fun h => hplain (by rw [h]; decide)

theorem closed_negations (count : Nat) : Closed (List.replicate count '!') := by
  induction count with
  | zero => exact closed_nil
  | succ count ih =>
      rw [List.replicate_succ]
      exact Closed.append (closed_plain rfl (by decide)) ih

theorem split_separator (junction : Junction) (rest : List Char) :
    split (Chain.separator junction :: rest) = .link [] junction (split rest) := by
  cases junction <;> exact congrArg (Chain.link [] _) (splitAfter_eq_split rfl rest)

/-- Splitting the text of a chain of closed pieces gives the chain back. -/
theorem split_text {chain : Chain (List Char)} (h : ∀ piece ∈ chain.pieces, Closed piece) :
    split chain.text = chain := by
  induction chain with
  | single piece =>
      have hpiece := h piece List.mem_cons_self []
      rw [List.append_nil] at hpiece
      rw [Chain.text, hpiece]
      exact congrArg Chain.single (List.append_nil piece)
  | link piece junction rest ih =>
      have hpiece := h piece List.mem_cons_self
      have hrest := ih fun other hother => h other (List.mem_cons_of_mem _ hother)
      rw [Chain.text, hpiece, split_separator, hrest]
      exact congrArg (Chain.link · junction rest) (List.append_nil piece)

/-! ## Escaping is undone -/

theorem unescape_escapeChars (chars : List Char) :
    unescape (escapeChars clauseCharacters chars) = chars := by
  induction chars with
  | nil => rfl
  | cons char chars ih =>
      rw [escapeChars_cons]
      split
      · rw [List.cons_append, List.cons_append, unescape, List.nil_append, ih]
      · rename_i hplain
        have hbackslash : char ≠ '\\' := fun h => hplain (by rw [h]; decide)
        rw [List.singleton_append, unescape, ih]
        intro other others h
        exact absurd h hbackslash

end AnalyticsQuery.FilterText
