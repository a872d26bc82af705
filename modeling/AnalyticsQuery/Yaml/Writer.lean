import AnalyticsQuery.Form.Config
import AnalyticsQuery.Text.Quoted
import AnalyticsQuery.Yaml.Tag

/-!
# Settings as YAML

One entry per setting.  A text is written without quotes when it then reads as the
same text, in single quotes otherwise, and in double quotes with escapes when it
holds characters that are not plain ASCII.  A text that passes column 80 goes on,
where that does not change it, on the next line.
-/

namespace AnalyticsQuery.Yaml

/-- Lines are folded after the first place beyond this column. -/
def lineWidth : Nat := 80

/-- The start of a line inside a value. -/
def newLine : List Char := ['\n', ' ', ' ']

/-- Column after the start of a line inside a value. -/
def newColumn : Nat := 2

/-! ## Styles -/

/-- Characters that mean something at the start of a scalar. -/
def leadingIndicators : List Char :=
  ['#', ',', '[', ']', '\x7b', '\x7d', '&', '*', '!', '|', '>', '\'', '"', '%', '@', '\x60']

def startsLikeMark (chars : List Char) : Bool :=
  "---".toList.isPrefixOf chars || "...".toList.isPrefixOf chars ||
    match chars with
    | [] => false
    | char :: rest =>
        leadingIndicators.contains char ||
          ((char == '?' || char == ':' || char == '-') && rest.head?.all isBlank)

/-- Whether a colon before a blank, or a mark of a comment after one, is inside. -/
def hasInnerMark : List Char → Bool
  | [] => false
  | ':' :: rest => rest.head?.all isBlank || hasInnerMark rest
  | char :: '#' :: rest => isBlank char || hasInnerMark ('#' :: rest)
  | _ :: rest => hasInnerMark rest

/-- Characters that need no escape. -/
def isPlainAscii (char : Char) : Bool :=
  char == '\n' || (0x20 ≤ char.toNat && char.toNat ≤ 0x7E)

/-- A space next to a line break. -/
def hasSpaceAtBreak : List Char → Bool
  | ' ' :: '\n' :: _ => true
  | '\n' :: ' ' :: _ => true
  | _ :: rest => hasSpaceAtBreak rest
  | [] => false

/-- Whether a text is read as the same text without quotes. -/
def readsAsText (text : String) : Bool :=
  let chars := text.toList
  decide (Tag.ofPlain text = .text) && !startsLikeMark chars && !hasInnerMark chars &&
    !chars.contains '\n' && chars.head? != some ' ' && chars.getLast? != some ' '

/-! ## Folding -/

/-- The content of a plain or single-quoted text after a column.  A single space beyond
the width of a line, which neither starts nor ends the text, is where the next line
starts.  In quotes a quote is doubled, and a run of line breaks gets one more. -/
def foldText (quoted : Bool) (previous : Option Char) (column : Nat) : List Char → List Char
  | [] => []
  | char :: rest =>
      if char = '\n' then
        let breaks := if previous = some '\n' then ['\n'] else ['\n', '\n']
        let indentation := if rest.head? = some '\n' then [] else [' ', ' ']
        breaks ++ indentation ++ foldText quoted (some char) newColumn rest
      else if quoted ∧ char = '\'' then
        '\'' :: '\'' :: foldText quoted (some char) (column + 2) rest
      else if char = ' ' ∧ previous.any (· != ' ') ∧ rest.head?.any (· != ' ') ∧
          lineWidth < column then
        newLine ++ foldText quoted (some char) newColumn rest
      else char :: foldText quoted (some char) (column + 1) rest

/-- Letters of the escapes for single characters. -/
def escapeLetters : List (Char × Char) :=
  [('\x00', '0'), ('\x07', 'a'), ('\x08', 'b'), ('\t', 't'), ('\n', 'n'), ('\x0b', 'v'),
    ('\x0c', 'f'), ('\r', 'r'), ('\x1b', 'e'), ('"', '"'), ('\\', '\\'), ('\u0085', 'N'),
    ('\u00a0', '_'), ('\u2028', 'L'), ('\u2029', 'P')]

def upperHex (width value : Nat) : List Char :=
  (Text.hexDigits width value).map Char.toUpper

def escapeDouble? (char : Char) : Option (List Char) :=
  match escapeLetters.lookup char with
  | some letter => some ['\\', letter]
  | none =>
      if isPlainAscii char then none
      else if char.toNat ≤ 0xFF then some ('\\' :: 'x' :: upperHex 2 char.toNat)
      else if char.toNat ≤ 0xFFFF then some ('\\' :: 'u' :: upperHex 4 char.toNat)
      else some ('\\' :: 'U' :: upperHex 8 char.toNat)

/-- An escaped line break, and a mark in front of a space that starts the next line. -/
def escapedBreak (next : Option Char) : List Char :=
  '\\' :: newLine ++ if next = some ' ' then ['\\'] else []

/-- Column after an escaped line break. -/
def escapedColumn (next : Option Char) : Nat :=
  if next = some ' ' then newColumn + 1 else newColumn

/-- The content of a double-quoted text after a column.  Beyond the width of a line the
next line starts before a space, before a character after an escape, or after an
escape, but not at the ends of the text. -/
def foldDouble (first afterEscape : Bool) (column : Nat) : List Char → List Char
  | [] => []
  | char :: rest =>
      let inside := !first && !rest.isEmpty
      match escapeDouble? char with
      | some escaped =>
          let column := column + escaped.length
          if inside && decide (lineWidth + 1 < column) then
            escaped ++ escapedBreak rest.head? ++
              foldDouble false true (escapedColumn rest.head?) rest
          else escaped ++ foldDouble false true column rest
      | none =>
          if inside && (char == ' ' || afterEscape) && decide (lineWidth < column) then
            escapedBreak (some char) ++
              char :: foldDouble false false (escapedColumn (some char) + 1) rest
          else char :: foldDouble false false (column + 1) rest

/-! ## Settings -/

/-- A text after a column; there is a blank in front of it. -/
def textScalar (column : Nat) (text : String) : String :=
  let chars := text.toList
  if !chars.all isPlainAscii || hasSpaceAtBreak chars then
    " \"" ++ String.ofList (foldDouble true false (column + 2) chars) ++ "\""
  else if readsAsText text then " " ++ String.ofList (foldText false none (column + 1) chars)
  else " '" ++ String.ofList (foldText true none (column + 2) chars) ++ "'"

/-- A setting's value after a column; a number may be too long to be written. -/
def settingScalar (column : Nat) : Document → Option String
  | .text value => some (textScalar column value)
  | .int value => if Numeral.isLong value then none else some (" " ++ Numeral.intText value)
  | .bool true => some " true"
  | .bool false => some " false"
  | _ => some " null"

/-- Settings as a block mapping, in the order of their declaration. -/
def ofConfig? (config : Config) : Option String := do
  let lines ← Setting.all.mapM fun setting => do
    let scalar ← settingScalar (setting.name.length + 1) (setting.toDocument config)
    return setting.name ++ ":" ++ scalar ++ "\n"
  return String.join lines

end AnalyticsQuery.Yaml
