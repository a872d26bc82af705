import AnalyticsQuery.Proofs.FilterText.Clauses

/-!
# Patterns of text matches

A text match becomes a regular expression inside a clause, so that two escapings lie upon
each other.  The reader here knows nothing of how patterns are written.  It splits a pattern
into characters with or without a backslash, refuses every operator but the two anchors, and
searches for what remains.  Read in this way, a pattern finds the matched text and nothing
else, whatever characters the text contains.
-/

namespace AnalyticsQuery

open FilterText

/-! ## Regular expressions without operators -/

namespace Regex

/-- A character of a pattern, with a backslash in front of it or without one. -/
inductive Token where
  | escaped (char : Char)
  | bare (char : Char)
  deriving DecidableEq

/-- The tokens of a pattern, unless it ends in the middle of one. -/
def tokens? : List Char → Option (List Token)
  | [] => some []
  | ['\\'] => none
  | '\\' :: char :: chars => (tokens? chars).map (.escaped char :: ·)
  | char :: chars => (tokens? chars).map (.bare char :: ·)

/-- The characters that, without a backslash, combine what stands around them. -/
def operators : List Char := ['.', '*', '+', '?', '|', '(', ')', '[', ']', '\x7b', '\x7d']

/-- A character that is matched, or an end of the subject. -/
inductive Atom where
  | literal (char : Char)
  | start
  | finish
  deriving DecidableEq

/-- What a token stands for.  An operator or a class, such as a backslash with a digit or a
letter, is no atom. -/
def Token.atom? : Token → Option Atom
  | .escaped char => if char.isAlphanum then none else some (.literal char)
  | .bare '^' => some .start
  | .bare '$' => some .finish
  | .bare char => if char ∈ operators then none else some (.literal char)

def Atom.mapChar (fold : Char → Char) : Atom → Atom
  | .literal char => .literal (fold char)
  | .start => .start
  | .finish => .finish

/-- Whether atoms match from the front of the rest of a subject; `whole` says that nothing
of the subject comes before. -/
def matchesFront : List Atom → Bool → List Char → Bool
  | [], _, _ => true
  | .literal _ :: _, _, [] => false
  | .literal char :: atoms, _, next :: rest => char = next && matchesFront atoms false rest
  | .start :: atoms, whole, rest => whole && matchesFront atoms whole rest
  | .finish :: atoms, whole, rest => rest.isEmpty && matchesFront atoms whole rest

/-- Whether atoms match somewhere in the rest of a subject. -/
def search (atoms : List Atom) : Bool → List Char → Bool
  | whole, [] => matchesFront atoms whole []
  | whole, next :: rest => matchesFront atoms whole (next :: rest) || search atoms false rest

end Regex

/-- A regular expression of atoms one after another. -/
structure Regex where
  ignoresCase : Bool
  atoms : List Regex.Atom
  deriving DecidableEq

namespace Regex

/-- Takes the flag of a pattern off, and tells whether case is to be ignored. -/
def flag? : List Char → Option (Bool × List Char)
  | '(' :: '?' :: 'i' :: ')' :: pattern => some (true, pattern)
  | '(' :: '?' :: '-' :: 'i' :: ')' :: pattern => some (false, pattern)
  | _ => none

/-- Reads a pattern with its flag. -/
def read? (text : List Char) : Option Regex := do
  let (ignoresCase, pattern) ← flag? text
  let tokens ← tokens? pattern
  let atoms ← tokens.mapM Token.atom?
  return ⟨ignoresCase, atoms⟩

/-- Whether a regular expression is found in a subject.  If case is ignored, only what
remains of letters after folding is compared. -/
def finds (fold : Char → Char) (regex : Regex) (subject : List Char) : Bool :=
  if regex.ignoresCase then search (regex.atoms.map (Atom.mapChar fold)) true (subject.map fold)
  else search regex.atoms true subject

/-! ## What is found -/

theorem matchesFront_chars_append {chars : List Char} {atoms : List Atom} {whole : Bool}
    {rest : List Char} :
    matchesFront (chars.map .literal ++ atoms) whole rest = true ↔
      ∃ after, rest = chars ++ after ∧
        matchesFront atoms (whole && chars.isEmpty) after = true := by
  induction chars generalizing whole rest with
  | nil => simp
  | cons char chars ih =>
      cases rest with
      | nil => simp [matchesFront]
      | cons next rest =>
          simp only [List.map_cons, List.cons_append, matchesFront, Bool.and_eq_true,
            decide_eq_true_eq, ih, List.cons.injEq, List.isEmpty_cons, Bool.and_false,
            Bool.false_and]
          constructor
          · rintro ⟨rfl, after, rfl, hafter⟩
            exact ⟨after, ⟨rfl, rfl⟩, hafter⟩
          · rintro ⟨after, ⟨rfl, rfl⟩, hafter⟩
            exact ⟨rfl, after, rfl, hafter⟩

theorem matchesFront_chars_iff {chars : List Char} {whole : Bool} {rest : List Char} :
    matchesFront (chars.map .literal) whole rest = true ↔ chars <+: rest := by
  rw [← List.append_nil (chars.map Atom.literal), matchesFront_chars_append]
  simp only [matchesFront, and_true, List.IsPrefix, eq_comm (a := chars ++ _)]

/-- A search tries every place of the subject. -/
theorem search_eq_true_iff {atoms : List Atom} {whole : Bool} {subject : List Char} :
    search atoms whole subject = true ↔
      ∃ before after, subject = before ++ after ∧
        matchesFront atoms (whole && before.isEmpty) after = true := by
  induction subject generalizing whole with
  | nil =>
      rw [search]
      constructor
      · intro h
        exact ⟨[], [], rfl, by rwa [List.isEmpty_nil, Bool.and_true]⟩
      · rintro ⟨before, after, hempty, h⟩
        obtain ⟨rfl, rfl⟩ := List.append_eq_nil_iff.1 hempty.symm
        rwa [List.isEmpty_nil, Bool.and_true] at h
  | cons next rest ih =>
      rw [search, Bool.or_eq_true, ih]
      constructor
      · rintro (h | ⟨before, after, rfl, h⟩)
        · exact ⟨[], next :: rest, rfl, by rwa [List.isEmpty_nil, Bool.and_true]⟩
        · exact ⟨next :: before, after, rfl, by
            rwa [List.isEmpty_cons, Bool.and_false, ← Bool.false_and before.isEmpty]⟩
      · rintro ⟨before, after, hsubject, h⟩
        cases before with
        | nil =>
            rw [List.isEmpty_nil, Bool.and_true] at h
            exact .inl (hsubject ▸ h)
        | cons first before =>
            obtain ⟨rfl, rfl⟩ := List.cons.inj hsubject
            rw [List.isEmpty_cons, Bool.and_false, ← Bool.false_and before.isEmpty] at h
            exact .inr ⟨before, after, rfl, h⟩

end Regex

/-! ## Anchored items -/

namespace TextMatch

/-- Items with an anchor where the operator wants one. -/
def anchored {α : Type} (start finish : α) (operator : TextMatch) (items : List α) : List α :=
  match operator with
  | contains => items
  | startsWith => start :: items
  | endsWith => items ++ [finish]

/-- What the operator says about the matched text and a subject. -/
def Holds : TextMatch → List Char → List Char → Prop
  | contains, text, subject => text <:+: subject
  | startsWith, text, subject => text <+: subject
  | endsWith, text, subject => text <:+ subject

theorem toList_anchor (operator : TextMatch) (pattern : String) :
    (operator.anchor pattern).toList = operator.anchored '^' '$' pattern.toList := by
  cases operator with
  | contains => rfl
  | startsWith => exact String.toList_append
  | endsWith => exact String.toList_append

theorem map_anchored {α β : Type} (f : α → β) (start finish : α) (operator : TextMatch)
    (items : List α) :
    (operator.anchored start finish items).map f =
      operator.anchored (f start) (f finish) (items.map f) := by
  cases operator with
  | contains => rfl
  | startsWith => rfl
  | endsWith => exact List.map_append

/-- Anchored characters are found where the operator says. -/
theorem search_anchored_iff {operator : TextMatch} {text subject : List Char} :
    Regex.search (operator.anchored .start .finish (text.map .literal)) true subject = true ↔
      operator.Holds text subject := by
  rw [Regex.search_eq_true_iff]
  cases operator with
  | contains =>
      simp only [anchored, Regex.matchesFront_chars_iff, Holds, List.infix_iff_prefix_suffix]
      constructor
      · rintro ⟨before, after, rfl, htext⟩
        exact ⟨after, htext, List.suffix_append before after⟩
      · rintro ⟨after, htext, before, rfl⟩
        exact ⟨before, after, rfl, htext⟩
  | startsWith =>
      simp only [anchored, Regex.matchesFront, Regex.matchesFront_chars_iff, Bool.true_and,
        Bool.and_eq_true, List.isEmpty_iff, Holds]
      constructor
      · rintro ⟨_, after, rfl, rfl, htext⟩
        exact htext
      · intro htext
        exact ⟨[], subject, rfl, rfl, htext⟩
  | endsWith =>
      have hfront (whole : Bool) (after : List Char) :
          Regex.matchesFront (text.map .literal ++ [.finish]) whole after = true ↔
            after = text := by
        rw [Regex.matchesFront_chars_append]
        simp only [Regex.matchesFront, Bool.and_true, List.isEmpty_iff]
        constructor
        · rintro ⟨_, rfl, rfl⟩
          exact List.append_nil text
        · rintro rfl
          exact ⟨[], (List.append_nil _).symm, rfl⟩
      simp only [anchored, hfront, Holds]
      constructor
      · rintro ⟨before, _, rfl, rfl⟩
        exact List.suffix_append before _
      · rintro ⟨before, rfl⟩
        exact ⟨before, text, rfl, rfl⟩

end TextMatch

/-! ## What is written -/

namespace Regex

/-- A character of the matched text, with a backslash if it has a meaning in patterns. -/
def Token.quote (char : Char) : Token :=
  if char ∈ regexCharacters then .escaped char else .bare char

theorem tokens?_bare {char : Char} (h : char ≠ '\\') (chars : List Char) :
    tokens? (char :: chars) = (tokens? chars).map (.bare char :: ·) := by
  rw [tokens?]
  · rintro rfl
    exact absurd rfl h
  · rintro _ _ rfl
    exact absurd rfl h

/-- Escaped text is read as one token for each of its characters. -/
theorem tokens?_escapeChars_append (chars rest : List Char) :
    tokens? (escapeChars regexCharacters chars ++ rest) =
      (tokens? rest).map (chars.map Token.quote ++ ·) := by
  induction chars with
  | nil =>
      change tokens? rest = (tokens? rest).map id
      rw [Option.map_id, id]
  | cons char chars ih =>
      -- a backslash is special itself, so that one that is read was written for an escape
      rw [escapeChars_cons, List.append_assoc, List.map_cons, Token.quote]
      by_cases hspecial : char ∈ regexCharacters
      · rw [if_pos hspecial, if_pos hspecial]
        change (tokens? (escapeChars regexCharacters chars ++ rest)).map _ = _
        rw [ih, Option.map_map]
        rfl
      · have hbackslash : char ≠ '\\' := fun h => hspecial (h ▸ by decide)
        rw [if_neg hspecial, if_neg hspecial, List.singleton_append, tokens?_bare hbackslash, ih,
          Option.map_map]
        rfl

theorem tokens?_anchored (operator : TextMatch) (chars : List Char) :
    tokens? (operator.anchored '^' '$' (escapeChars regexCharacters chars)) =
      some (operator.anchored (.bare '^') (.bare '$') (chars.map Token.quote)) := by
  have hchars := tokens?_escapeChars_append chars []
  rw [List.append_nil] at hchars
  cases operator with
  | contains =>
      rw [TextMatch.anchored, hchars]
      exact congrArg some (List.append_nil _)
  | startsWith =>
      rw [TextMatch.anchored, tokens?_bare (by decide), hchars]
      exact congrArg (some <| Token.bare '^' :: ·) (List.append_nil _)
  | endsWith => exact tokens?_escapeChars_append chars ['$']

/-- Quoted characters stand for themselves. -/
theorem atom?_quote (char : Char) : (Token.quote char).atom? = some (.literal char) := by
  have hplain : regexCharacters.all (fun special => !special.isAlphanum) = true := by decide
  have hoperators : operators.all (fun operator => operator ∈ regexCharacters) = true := by decide
  rw [List.all_eq_true] at hplain hoperators
  rw [Token.quote]
  by_cases hspecial : char ∈ regexCharacters
  · rw [if_pos hspecial, Token.atom?, if_neg]
    simpa using hplain char hspecial
  · rw [if_neg hspecial, Token.atom?, if_neg fun h => hspecial (by simpa using hoperators char h)]
    · rintro rfl
      exact absurd (by decide) hspecial
    · rintro rfl
      exact absurd (by decide) hspecial

theorem mapM_atom?_anchored (operator : TextMatch) (chars : List Char) :
    (operator.anchored (.bare '^') (.bare '$') (chars.map Token.quote)).mapM Token.atom? =
      some (operator.anchored .start .finish (chars.map .literal)) := by
  have hchars : (chars.map Token.quote).mapM Token.atom? = some (chars.map .literal) := by
    induction chars with
    | nil => rfl
    | cons char chars ih =>
        rw [List.map_cons, List.mapM_cons, atom?_quote, ih]
        rfl
  cases operator with
  | contains => exact hchars
  | startsWith =>
      rw [TextMatch.anchored, List.mapM_cons, hchars]
      rfl
  | endsWith =>
      rw [TextMatch.anchored, List.mapM_append, hchars]
      rfl

theorem flag?_caseFlag (caseSensitive : Bool) (pattern : List Char) :
    flag? ((caseFlag caseSensitive).toList ++ pattern) = some (!caseSensitive, pattern) := by
  cases caseSensitive <;> rfl

/-- The pattern of a text match is read as its text between its anchors. -/
theorem read?_pattern (operator : TextMatch) (caseSensitive : Bool) (text : String) :
    read? ((caseFlag caseSensitive).toList ++ (operator.anchor (escapeRegex text)).toList) =
      some ⟨!caseSensitive, operator.anchored .start .finish (text.toList.map .literal)⟩ := by
  have htokens := tokens?_anchored operator text.toList
  rw [← String.toList_ofList (l := escapeChars _ _), ← TextMatch.toList_anchor] at htokens
  rw [read?, flag?_caseFlag]
  change (tokens? (operator.anchor (escapeRegex text)).toList >>= fun tokens =>
    tokens.mapM Token.atom? >>= fun atoms => some (⟨!caseSensitive, atoms⟩ : Regex)) = _
  rw [escapeRegex, escape, htokens, Option.bind_eq_bind, Option.bind_some, mapM_atom?_anchored]
  rfl

theorem finds_anchored_iff (fold : Char → Char) (operator : TextMatch) (caseSensitive : Bool)
    (text subject : List Char) :
    finds fold ⟨!caseSensitive, operator.anchored .start .finish (text.map .literal)⟩ subject =
        true ↔
      if caseSensitive then operator.Holds text subject
      else operator.Holds (text.map fold) (subject.map fold) := by
  cases caseSensitive with
  | true => exact TextMatch.search_anchored_iff
  | false =>
      have hfolded : (operator.anchored .start .finish (text.map .literal)).map
          (Atom.mapChar fold) =
            operator.anchored .start .finish ((text.map fold).map .literal) := by
        rw [TextMatch.map_anchored, List.map_map, List.map_map]
        rfl
      change search ((operator.anchored .start .finish (text.map .literal)).map
        (Atom.mapChar fold)) true (subject.map fold) = true ↔ _
      rw [hfolded]
      exact TextMatch.search_anchored_iff

end Regex

namespace Compiler

variable {compiler : Compiler}

/-- Text matches are literal.  Without the escaping of the clause, what is written is the
field, the operator, the flag, and a pattern of the characters of the text, in which those
have a backslash that mean something in patterns.  The pattern is found in the subjects that
contain the text, start with it, or end with it, either letter for letter or after folding. -/
theorem filterText_textMatch {field : Field} {name : String} {value : Operand} {text : String}
    (hname : compiler.fieldName field = .ok name) (hvalue : compiler.operandText value = .ok text)
    (operator : TextMatch) (caseSensitive : Bool) :
    ∃ clause pattern regex,
      compiler.filterText (.condition (.textMatch operator field value caseSensitive)) =
        .ok (some clause) ∧
      unescape clause.toList = name.toList ++ "=~".toList ++
        (caseFlag caseSensitive).toList ++ pattern ∧
      Regex.tokens? pattern = some (operator.anchored (.bare '^') (.bare '$')
        (text.toList.map Regex.Token.quote)) ∧
      Regex.read? ((caseFlag caseSensitive).toList ++ pattern) = some regex ∧
      ∀ (fold : Char → Char) (subject : List Char), regex.finds fold subject = true ↔
        if caseSensitive then operator.Holds text.toList subject
        else operator.Holds (text.toList.map fold) (subject.map fold) := by
  have hclauses : compiler.clauseTexts (.textMatch operator field value caseSensitive) =
      .ok [name ++ "=~" ++ caseFlag caseSensitive ++ operator.anchor (escapeRegex text)] :=
    clauseTexts_eq_ok_iff.2 ⟨name, text, hname, hvalue, rfl⟩
  refine ⟨_, (operator.anchor (escapeRegex text)).toList, _,
    filterText_condition_eq_ok_iff.2 ⟨_, hclauses, rfl⟩, ?_, ?_,
    Regex.read?_pattern operator caseSensitive text, fun fold subject =>
      Regex.finds_anchored_iff fold operator caseSensitive text.toList subject⟩
  · rw [List.map_singleton, String.intercalate_singleton, escapeClause, escape,
      String.toList_ofList, unescape_escapeChars]
    simp only [String.toList_append]
  · rw [TextMatch.toList_anchor, escapeRegex, escape, String.toList_ofList]
    exact Regex.tokens?_anchored operator text.toList

/-- A text of backslash, anchors and separators. -/
theorem filterText_textMatch_separators :
    let field : Field := .plain (.literal "ga:page")
    let value : Operand := .literal (.text "\\^$,;") none
    let text := "ga:page=~(?i)^\\\\\\\\\\\\^\\\\$\\,\\;"
    let pattern := "^\\\\\\^\\$,;"
    bare.fieldName field = .ok "ga:page" ∧ bare.operandText value = .ok "\\^$,;" ∧
      bare.filterText (.condition (.textMatch .startsWith field value false)) =
        .ok (some text) ∧
      unescape text.toList = "ga:page=~(?i)".toList ++ pattern.toList ∧
      ∃ regex, Regex.read? ("(?i)".toList ++ pattern.toList) = some regex ∧
        ∀ (fold : Char → Char) (subject : List Char), regex.finds fold subject = true ↔
          "\\^$,;".toList.map fold <+: subject.map fold := by
  intro field value text pattern
  have hname : bare.fieldName field = .ok "ga:page" := rfl
  have hvalue : bare.operandText value = .ok "\\^$,;" := rfl
  have htext : bare.filterText (.condition (.textMatch .startsWith field value false)) =
      .ok (some text) := by decide +kernel
  have hplain : unescape text.toList = "ga:page=~(?i)".toList ++ pattern.toList := by
    decide +kernel
  obtain ⟨clause, written, regex, hclause, hunescaped, _, hread, hfinds⟩ :=
    filterText_textMatch hname hvalue .startsWith false
  obtain rfl : text = clause := Option.some.inj (Except.ok.inj (htext.symm.trans hclause))
  obtain rfl : pattern.toList = written :=
    List.append_cancel_left (hplain.symm.trans hunescaped)
  exact ⟨hname, hvalue, htext, hplain, regex, hread, hfinds⟩

end Compiler

end AnalyticsQuery
