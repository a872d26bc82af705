import AnalyticsQuery.Yaml.Cursor
import AnalyticsQuery.Yaml.Error

/-!
# Tokens of a YAML text

Indentation shows as tokens of its own, which open and close block collections.
Readers of tokens that consist of text are in the modules below this one.  Their
loops over lines are counted down from the number of characters that are left, each
of which is read at most once.
-/

namespace AnalyticsQuery.Yaml

inductive Directive where
  | version (major : Nat)
  /-- What a handle at the front of a tag stands for. -/
  | handle (name replacement : String)
  | unknown
  deriving DecidableEq

inductive Token where
  | directive (directive : Directive)
  | documentStart
  | documentEnd
  | textEnd
  | blockSequenceStart
  | blockMappingStart
  | blockEnd
  | flowSequenceStart
  | flowSequenceEnd
  | flowMappingStart
  | flowMappingEnd
  | flowEntry
  | blockEntry
  | key
  | value
  | alias (name : String)
  | anchor (name : String)
  | tag (handle : Option String) (name : String)
  /-- Text of a scalar, and whether it was written without quotes. -/
  | scalar (text : String) (plain : Bool)
  deriving DecidableEq

/-! ## Parts that several tokens have -/

/-- Lines are folded: a line break in the content is a space, and the first of several
says nothing. -/
def foldBreaks (first : Char) (more : List Char) : List Char :=
  if first ≠ '\n' then first :: more
  else if more.isEmpty then [' ']
  else more

/-- The rest of a line that holds nothing more than a comment. -/
def skipLineEnd (cursor : Cursor) : Except ReadError Cursor :=
  let cursor := cursor.skipComment
  match cursor.takeBreak? with
  | some (_, cursor) => .ok cursor
  | none => if cursor.atEnd then .ok cursor else .error .lexical

end AnalyticsQuery.Yaml
