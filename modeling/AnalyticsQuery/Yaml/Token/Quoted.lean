import AnalyticsQuery.Text.Numeral
import AnalyticsQuery.Yaml.Token

/-!
# Quoted scalars

Blanks around line breaks inside a quoted scalar are folded.  In double quotes a
backslash starts an escape.
-/

namespace AnalyticsQuery.Yaml

/-- Empty lines, and the blanks at the start of the line that holds something. -/
def takeEmptyLines : Nat → Cursor → Except ReadError (List Char × Cursor)
  | 0, _ => .error .lexical
  | fuel + 1, cursor =>
      if cursor.atDocumentMark then .error .lexical
      else
        let cursor := cursor.skipWhile isSpaceOrTab
        match cursor.takeBreak? with
        | none => .ok ([], cursor)
        | some (first, cursor) => do
            let (more, cursor) ← takeEmptyLines fuel cursor
            return (first :: more, cursor)

/-- Blanks inside a line, or the folded blanks around line breaks. -/
def takeQuotedGap (cursor : Cursor) : Except ReadError (List Char × Cursor) :=
  let (blanks, cursor) := cursor.takeWhile isSpaceOrTab
  match cursor.takeBreak? with
  | none => if cursor.atEnd then .error .lexical else .ok (blanks, cursor)
  | some (first, cursor) => do
      let (more, cursor) ← takeEmptyLines (cursor.rest.length + 1) cursor
      return (foldBreaks first more, cursor)

/-- The characters for which single letters stand after a backslash. -/
def escapedChars : List (Char × Char) :=
  [('0', '\x00'), ('a', '\x07'), ('b', '\x08'), ('t', '\t'), ('\t', '\t'), ('n', '\n'),
    ('v', '\x0b'), ('f', '\x0c'), ('r', '\r'), ('e', '\x1b'), (' ', ' '), ('"', '"'),
    ('\\', '\\'), ('/', '/'), ('N', '\u0085'), ('_', '\u00a0'), ('L', '\u2028'),
    ('P', '\u2029')]

/-- Number of hexadecimal digits after a letter that introduces a code point. -/
def codeWidths : List (Char × Nat) := [('x', 2), ('u', 4), ('U', 8)]

/-- A code point of `width` hexadecimal digits. -/
def takeCodePoint (width : Nat) (cursor : Cursor) : Except ReadError (List Char × Cursor) :=
  let digits := cursor.rest.take width
  match if digits.length = width then Numeral.readHex? digits else none with
  | none => .error .lexical
  | some code =>
      if code < 0x110000 then .ok ([Char.ofNat code], cursor.forward width)
      else .error (.codePoint code)

/-- What follows a backslash.  An escaped line break says nothing. -/
def takeEscape (cursor : Cursor) : Except ReadError (List Char × Cursor) :=
  match cursor.peek? with
  | none => .error .lexical
  | some letter =>
      match escapedChars.lookup letter, codeWidths.lookup letter, cursor.takeBreak? with
      | some char, _, _ => .ok ([char], cursor.next)
      | none, some width, _ => takeCodePoint width cursor.next
      | none, none, some (_, cursor) => takeEmptyLines (cursor.rest.length + 1) cursor
      | none, none, none => .error .lexical

/-- Content up to the closing quote.  A doubled single quote is one of the content. -/
def takeQuoted (double : Bool) : Nat → Cursor → Except ReadError (List Char × Cursor)
  | 0, _ => .error .lexical
  | fuel + 1, cursor => do
      let continueWith (taken : List Char) (cursor : Cursor) := do
        let (more, cursor) ← takeQuoted double fuel cursor
        return (taken ++ more, cursor)
      match cursor.rest with
      | [] => .error .lexical
      | char :: rest =>
          if isBlank char then
            let (gap, cursor) ← takeQuotedGap cursor
            continueWith gap cursor
          else if double && char == '"' then return ([], cursor.next)
          else if double && char == '\\' then
            let (escaped, cursor) ← takeEscape cursor.next
            continueWith escaped cursor
          else if !double && char == '\'' then
            if rest.head? = some '\'' then continueWith ['\''] (cursor.forward 2)
            else return ([], cursor.next)
          else continueWith [char] cursor.next

/-- A quoted scalar, from its opening quote on. -/
def takeQuotedScalar (double : Bool) (cursor : Cursor) : Except ReadError (Token × Cursor) := do
  let (text, cursor) ← takeQuoted double (cursor.rest.length + 1) cursor.next
  return (.scalar (String.ofList text) false, cursor)

end AnalyticsQuery.Yaml
