import AnalyticsQuery.Text.Numeral
import AnalyticsQuery.Yaml.Token

/-!
# Block scalars

A block scalar consists of indented lines, which are kept as they are or folded.
-/

namespace AnalyticsQuery.Yaml

/-- What happens to the line breaks at the end of a block scalar. -/
inductive Chomping where
  | strip
  | clip
  | keep
  deriving DecidableEq

def takeChomping (cursor : Cursor) : Chomping × Cursor :=
  match cursor.peek? with
  | some '+' => (.keep, cursor.next)
  | some '-' => (.strip, cursor.next)
  | _ => (.clip, cursor)

/-- An explicit indentation, which is not zero. -/
def takeIndentation (cursor : Cursor) : Except ReadError (Option Nat × Cursor) :=
  match cursor.peek?.bind Numeral.digit? with
  | none => .ok (none, cursor)
  | some 0 => .error .lexical
  | some value => .ok (some value, cursor.next)

/-- The two indicators of a block scalar, in either order. -/
def takeBlockHeader (cursor : Cursor) : Except ReadError (Chomping × Option Nat × Cursor) := do
  let (chomping, cursor) := takeChomping cursor
  let (indentation, cursor) ← takeIndentation cursor
  let (chomping, cursor) :=
    if chomping = .clip && indentation.isSome then takeChomping cursor else (chomping, cursor)
  if cursor.peek?.all fun char => isSpace char || isBreak char then
    return (chomping, indentation, ← skipLineEnd cursor)
  else .error .lexical

/-- Empty lines at the start of a block scalar, and the greatest indentation there. -/
def takeLeadingLines : Nat → Cursor → List Char × Nat × Cursor
  | 0, cursor => ([], 0, cursor)
  | fuel + 1, cursor =>
      let (spaces, cursor) := cursor.takeWhile isSpace
      let indentation := if spaces.isEmpty then 0 else cursor.column
      match cursor.takeBreak? with
      | none => ([], indentation, cursor)
      | some (first, cursor) =>
          let (more, deepest, cursor) := takeLeadingLines fuel cursor
          (first :: more, max indentation deepest, cursor)

/-- Empty lines between lines with an indentation, of which it skips no more. -/
def takeBlockBreaks (indentation : Nat) : Nat → Cursor → List Char × Cursor
  | 0, cursor => ([], cursor)
  | fuel + 1, cursor =>
      let spaces := (cursor.rest.take (indentation - cursor.column)).takeWhile isSpace
      let cursor := cursor.forward spaces.length
      match cursor.takeBreak? with
      | none => ([], cursor)
      | some (first, cursor) =>
          let (more, cursor) := takeBlockBreaks indentation fuel cursor
          (first :: more, cursor)

/-- What joins two lines of a block scalar.  Lines that start with a blank are not folded. -/
def blockJoint (folded : Bool) (line lineBreak breaks : List Char) (following : Option Char) :
    List Char :=
  let flush (char : Option Char) := char.all fun char => !isSpaceOrTab char
  if folded && lineBreak == ['\n'] && flush line.head? && flush following then
    if breaks.isEmpty then [' '] else []
  else lineBreak

/-- Lines of a block scalar: the content, the break after its last line, and the breaks
of the empty lines after that. -/
def takeBlockLines (folded : Bool) (indentation : Nat) :
    Nat → Cursor → List Char × List Char × List Char × Cursor
  | 0, cursor => ([], [], [], cursor)
  | fuel + 1, cursor =>
      let (line, cursor) := cursor.takeWhile fun char => !isBreak char
      let (lineBreak, cursor) := match cursor.takeBreak? with
        | some (char, cursor) => ([char], cursor)
        | none => ([], cursor)
      let (breaks, cursor) := takeBlockBreaks indentation (cursor.rest.length + 1) cursor
      if cursor.column = indentation && !cursor.atEnd then
        let joint := blockJoint folded line lineBreak breaks cursor.peek?
        let (content, last, trailing, cursor) := takeBlockLines folded indentation fuel cursor
        (line ++ joint ++ breaks ++ content, last, trailing, cursor)
      else (line, lineBreak, breaks, cursor)

/-- A block scalar, from its indicator on, in a block whose entries are indented by
less than `least`. -/
def takeBlockScalar (folded : Bool) (least : Nat) (cursor : Cursor) :
    Except ReadError (Token × Cursor) := do
  let (chomping, indicated, cursor) ← takeBlockHeader cursor.next
  let least := max 1 least
  let (leading, indentation, cursor) := match indicated with
    | some more =>
        let indentation := least + more - 1
        let (breaks, cursor) := takeBlockBreaks indentation (cursor.rest.length + 1) cursor
        (breaks, indentation, cursor)
    | none =>
        let (breaks, deepest, cursor) := takeLeadingLines (cursor.rest.length + 1) cursor
        (breaks, max least deepest, cursor)
  let (content, last, trailing, cursor) :=
    if cursor.column = indentation && !cursor.atEnd then
      let (content, last, trailing, cursor) :=
        takeBlockLines folded indentation (cursor.rest.length + 1) cursor
      (leading ++ content, last, trailing, cursor)
    else ([], [], leading, cursor)
  let text := match chomping with
    | .strip => content
    | .clip => content ++ last
    | .keep => content ++ last ++ trailing
  return (.scalar (String.ofList text) false, cursor)

end AnalyticsQuery.Yaml
