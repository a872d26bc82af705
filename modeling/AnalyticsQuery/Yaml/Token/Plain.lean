import AnalyticsQuery.Yaml.Token

/-!
# Plain scalars

A plain scalar has no quotes.  It ends at a colon or a comment, at the punctuation
of a flow collection around it, or where the indentation says so.
-/

namespace AnalyticsQuery.Yaml

/-- Punctuation of flow collections. -/
def flowMarks : List Char := [',', '[', ']', '\x7b', '\x7d']

/-- Characters that start something else than a plain scalar. -/
def indicators : List Char :=
  ['-', '?', ':', ',', '[', ']', '\x7b', '\x7d', '#', '&', '*', '!', '|', '>', '\'', '"', '%',
    '@', '\x60']

def startsPlain (inFlow : Bool) (cursor : Cursor) : Bool :=
  match cursor.rest with
  | [] => false
  | char :: rest =>
      (!isBlank char && !indicators.contains char) ||
        (!rest.head?.all isBlank &&
          (char == '-' || (!inFlow && (char == '?' || char == ':'))))

/-- Whether a run of a plain scalar ends in front of a character. -/
def endsPlain (inFlow : Bool) (char : Char) (rest : List Char) : Bool :=
  isBlank char ||
    (char == ':' &&
      rest.head?.all fun next => isBlank next || (inFlow && flowMarks.contains next)) ||
    (inFlow && (char == '?' || flowMarks.contains char))

/-- A run of a plain scalar without blanks. -/
def plainRun (inFlow : Bool) : List Char → List Char
  | [] => []
  | char :: rest =>
      if endsPlain inFlow char rest then [] else char :: plainRun inFlow rest

/-- The breaks of empty lines; nothing if a document starts or ends before more content. -/
def takePlainBreaks : Nat → Cursor → Option (List Char) × Cursor
  | 0, cursor => (none, cursor)
  | fuel + 1, cursor =>
      if cursor.atDocumentMark then (none, cursor)
      else
        let cursor := cursor.skipWhile isSpace
        match cursor.takeBreak? with
        | none => (some [], cursor)
        | some (first, cursor) =>
            let (more, cursor) := takePlainBreaks fuel cursor
            (more.map (first :: ·), cursor)

/-- Spaces and line breaks after a run, and whether a line ends there.  No characters
mean that the scalar ends. -/
def takePlainGap (cursor : Cursor) : List Char × Bool × Cursor :=
  let (spaces, cursor) := cursor.takeWhile isSpace
  match cursor.takeBreak? with
  | none => (spaces, false, cursor)
  | some (first, cursor) =>
      match takePlainBreaks (cursor.rest.length + 1) cursor with
      | (none, cursor) => ([], true, cursor)
      | (some more, cursor) => (foldBreaks first more, true, cursor)

/-- Runs and the gaps between them, and whether a line ends after the last run.
Lines that belong to the scalar start at `column` or further right. -/
def takePlain (inFlow : Bool) (column : Nat) : Nat → Cursor → List Char × Bool × Cursor
  | 0, cursor => ([], false, cursor)
  | fuel + 1, cursor =>
      let run := plainRun inFlow cursor.rest
      let (gap, lineEnds, cursor) := takePlainGap (cursor.forward run.length)
      let ends := gap.isEmpty || cursor.peek? == some '#' ||
        (!inFlow && decide (cursor.column < column)) ||
        (plainRun inFlow cursor.rest).isEmpty
      if ends then (run, lineEnds, cursor)
      else
        let (more, lineEnds, cursor) := takePlain inFlow column fuel cursor
        (run ++ gap ++ more, lineEnds, cursor)

/-- A plain scalar, and whether a line ends after it. -/
def takePlainScalar (inFlow : Bool) (column : Nat) (cursor : Cursor) : Token × Bool × Cursor :=
  let (text, lineEnds, cursor) := takePlain inFlow column (cursor.rest.length + 1) cursor
  (.scalar (String.ofList text) true, lineEnds, cursor)

end AnalyticsQuery.Yaml
