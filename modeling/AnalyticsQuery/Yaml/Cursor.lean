/-!
# Places in a YAML text

A cursor holds what is left of a text and where that starts: how many characters
and lines came before, and in which column.  Every operation that takes something
gives it together with the place after it.
-/

namespace AnalyticsQuery.Yaml

/-- Characters that end a line. -/
def isBreak (char : Char) : Bool :=
  ['\n', '\r', '\u0085', '\u2028', '\u2029'].contains char

def isSpace (char : Char) : Bool := char == ' '

def isSpaceOrTab (char : Char) : Bool := char == ' ' || char == '\t'

def isBlank (char : Char) : Bool := isSpaceOrTab char || isBreak char

/-- The mark of the byte order, which takes no column. -/
def byteOrderMark : Char := '\ufeff'

structure Cursor where
  rest : List Char
  index : Nat := 0
  line : Nat := 0
  column : Nat := 0

namespace Cursor

def atEnd (cursor : Cursor) : Bool := cursor.rest.isEmpty

def peek? (cursor : Cursor) : Option Char := cursor.rest.head?

/-- Moves over one character.  A carriage return before a line feed ends no line. -/
def next (cursor : Cursor) : Cursor :=
  match cursor.rest with
  | [] => cursor
  | char :: rest =>
      if isBreak char && !(char == '\r' && rest.head? == some '\n') then
        ⟨rest, cursor.index + 1, cursor.line + 1, 0⟩
      else if char == byteOrderMark then ⟨rest, cursor.index + 1, cursor.line, cursor.column⟩
      else ⟨rest, cursor.index + 1, cursor.line, cursor.column + 1⟩

def forward (cursor : Cursor) : Nat → Cursor
  | 0 => cursor
  | count + 1 => cursor.next.forward count

/-- The longest run of characters that pass a test. -/
def takeWhile (test : Char → Bool) (cursor : Cursor) : List Char × Cursor :=
  let run := cursor.rest.takeWhile test
  (run, cursor.forward run.length)

def skipWhile (test : Char → Bool) (cursor : Cursor) : Cursor := (cursor.takeWhile test).2

/-- A line break, as the character that it is in the content. -/
def takeBreak? (cursor : Cursor) : Option (Char × Cursor) :=
  match cursor.rest with
  | '\r' :: '\n' :: _ => some ('\n', cursor.forward 2)
  | char :: _ =>
      if char == '\u2028' || char == '\u2029' then some (char, cursor.next)
      else if isBreak char then some ('\n', cursor.next)
      else none
  | [] => none

/-- Whether three characters and then a blank or the end follow. -/
def startsWithMark (cursor : Cursor) (mark : String) : Bool :=
  mark.toList.isPrefixOf cursor.rest && (cursor.rest.drop 3).head?.all isBlank

/-- At the start of a line: whether a document starts or ends here. -/
def atDocumentMark (cursor : Cursor) : Bool :=
  cursor.startsWithMark "---" || cursor.startsWithMark "..."

/-- Skips spaces and then a comment, up to the end of the line. -/
def skipComment (cursor : Cursor) : Cursor :=
  let cursor := cursor.skipWhile isSpace
  if cursor.peek? == some '#' then cursor.skipWhile fun char => !isBreak char else cursor

end Cursor

end AnalyticsQuery.Yaml
