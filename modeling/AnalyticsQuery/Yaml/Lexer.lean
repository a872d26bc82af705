import AnalyticsQuery.Yaml.Lexer.Basic
import AnalyticsQuery.Yaml.Token.Block
import AnalyticsQuery.Yaml.Token.Name
import AnalyticsQuery.Yaml.Token.Plain
import AnalyticsQuery.Yaml.Token.Quoted

/-!
# Dividing a YAML text into tokens

The first characters of a token say which one it is, together with its column, and
with whether it is inside a flow collection and whether a key may start there.
-/

namespace AnalyticsQuery.Yaml

namespace Lexer

/-- Skips blanks, comments and line breaks.  A key may start on a new line. -/
def skipGap : Nat → Lexer → Lexer
  | 0, lexer => lexer
  | fuel + 1, lexer =>
      let cursor := lexer.cursor.skipComment
      match cursor.takeBreak? with
      | none => { lexer with cursor }
      | some (_, cursor) =>
          skipGap fuel { lexer with cursor, keyAllowed := lexer.keyAllowed || !lexer.inFlow }

/-- Closes everything before a document starts or ends. -/
def leaveBlocks (lexer : Lexer) : Except ReadError Lexer := do
  return (← (lexer.closeBlocks fun _ => true).dropStart).allowKey false

def fetchEnd (lexer : Lexer) : Except ReadError Lexer := do
  return { (← lexer.leaveBlocks).push .textEnd with starts := [], done := true }

def fetchDirective (lexer : Lexer) : Except ReadError Lexer := do
  let lexer ← lexer.leaveBlocks
  let (token, cursor) ← takeDirective lexer.cursor
  return { lexer.push token with cursor }

def fetchDocumentMark (lexer : Lexer) (token : Token) : Except ReadError Lexer := do
  return (← lexer.leaveBlocks).pushOver 3 token

def fetchFlowStart (lexer : Lexer) (token : Token) : Except ReadError Lexer := do
  let lexer ← lexer.saveStart
  return { (lexer.allowKey true).pushOver 1 token with flowDepth := lexer.flowDepth + 1 }

def fetchFlowEnd (lexer : Lexer) (token : Token) : Except ReadError Lexer := do
  let lexer ← lexer.dropStart
  return { (lexer.allowKey false).pushOver 1 token with flowDepth := lexer.flowDepth - 1 }

def fetchFlowEntry (lexer : Lexer) : Except ReadError Lexer := do
  return (← (lexer.allowKey true).dropStart).pushOver 1 .flowEntry

/-- The mark of an entry of a block sequence, or of an explicit key. -/
def fetchMark (lexer : Lexer) (opening token : Token) (thenAllowed : Bool) :
    Except ReadError Lexer := do
  let lexer ←
    if lexer.inFlow then .ok lexer
    else if lexer.keyAllowed then .ok (lexer.openBlockHere opening)
    else .error .lexical
  return (← (lexer.allowKey thenAllowed).dropStart).pushOver 1 token

/-- A colon, after a key on the same line or after an explicit key. -/
def fetchValue (lexer : Lexer) : Except ReadError Lexer := do
  let lexer ← match lexer.start? with
    | some start =>
        let lexer := lexer.forget.insertAt start.number .key
        let lexer :=
          if lexer.inFlow then lexer
          else lexer.openBlock start.column start.number .blockMappingStart
        pure (lexer.allowKey false)
    | none =>
        if lexer.inFlow then (lexer.allowKey false).dropStart
        else if lexer.keyAllowed then
          ((lexer.openBlockHere .blockMappingStart).allowKey true).dropStart
        else .error .lexical
  return lexer.pushOver 1 .value

/-- A token that may be a key or the start of one. -/
def fetchWith (lexer : Lexer) (take : Cursor → Except ReadError (Token × Cursor)) :
    Except ReadError Lexer := do
  let lexer ← lexer.saveStart
  let (token, cursor) ← take lexer.cursor
  return { (lexer.allowKey false).push token with cursor }

def takeAnchor (cursor : Cursor) : Except ReadError (Token × Cursor) := do
  let (name, cursor) ← takeName cursor.next
  return (.anchor name, cursor)

def takeAlias (cursor : Cursor) : Except ReadError (Token × Cursor) := do
  let (name, cursor) ← takeName cursor.next
  return (.alias name, cursor)

/-- First column of lines that belong to the entry that is being read. -/
def contentColumn (lexer : Lexer) : Nat := lexer.columns.head?.elim 0 (· + 1)

def fetchBlockScalar (lexer : Lexer) (folded : Bool) : Except ReadError Lexer := do
  let lexer ← (lexer.allowKey true).dropStart
  let (token, cursor) ← takeBlockScalar folded lexer.contentColumn lexer.cursor
  return { lexer.push token with cursor }

def fetchPlain (lexer : Lexer) : Except ReadError Lexer := do
  let lexer ← lexer.saveStart
  let (token, lineEnds, cursor) := takePlainScalar lexer.inFlow lexer.contentColumn lexer.cursor
  return { (lexer.allowKey lineEnds).push token with cursor }

/-- Reads the token that starts here. -/
def fetchHere (lexer : Lexer) : Except ReadError Lexer :=
  let cursor := lexer.cursor
  let atLineStart := cursor.column == 0
  match cursor.rest with
  | [] => lexer.fetchEnd
  | char :: rest =>
      let alone := rest.head?.all isBlank
      if atLineStart && char == '%' then lexer.fetchDirective
      else if atLineStart && cursor.startsWithMark "---" then
        lexer.fetchDocumentMark .documentStart
      else if atLineStart && cursor.startsWithMark "..." then
        lexer.fetchDocumentMark .documentEnd
      else if char == '[' then lexer.fetchFlowStart .flowSequenceStart
      else if char == '\x7b' then lexer.fetchFlowStart .flowMappingStart
      else if char == ']' then lexer.fetchFlowEnd .flowSequenceEnd
      else if char == '\x7d' then lexer.fetchFlowEnd .flowMappingEnd
      else if char == ',' then lexer.fetchFlowEntry
      else if char == '-' && alone then lexer.fetchMark .blockSequenceStart .blockEntry true
      else if char == '?' && (lexer.inFlow || alone) then
        lexer.fetchMark .blockMappingStart .key (!lexer.inFlow)
      else if char == ':' && (lexer.inFlow || alone) then lexer.fetchValue
      else if char == '*' then lexer.fetchWith takeAlias
      else if char == '&' then lexer.fetchWith takeAnchor
      else if char == '!' then lexer.fetchWith takeTag
      else if char == '|' && !lexer.inFlow then lexer.fetchBlockScalar false
      else if char == '>' && !lexer.inFlow then lexer.fetchBlockScalar true
      else if char == '\'' then lexer.fetchWith (takeQuotedScalar false)
      else if char == '"' then lexer.fetchWith (takeQuotedScalar true)
      else if startsPlain lexer.inFlow cursor then lexer.fetchPlain
      else .error .lexical

/-- Reads up to the next token and that token. -/
def fetch (lexer : Lexer) : Except ReadError Lexer := do
  let lexer ← (lexer.skipGap (lexer.cursor.rest.length + 1)).dropStale
  (lexer.closeBlocks fun column => decide (lexer.cursor.column < column)).fetchHere

/-- Gives away the tokens in front of the first one that may still become a key. -/
def release (lexer : Lexer) : List Token × Lexer :=
  let count := match (lexer.starts.map fun (_, start) => start.number).min? with
    | some number => number - lexer.given
    | none => lexer.queue.length
  let released := lexer.queue.take count
  (released,
    { lexer with queue := lexer.queue.drop count, given := lexer.given + released.length })

/-- All tokens up to the end of the text, or up to the first fault. -/
def tokens : Nat → Lexer → List Token × Option ReadError
  | 0, _ => ([], some .lexical)
  | fuel + 1, lexer =>
      match lexer.fetch with
      | .error error => ([], some error)
      | .ok lexer =>
          if lexer.done then (lexer.queue, none)
          else
            match lexer.dropStale with
            | .error error => ([], some error)
            | .ok lexer =>
                let (released, lexer) := lexer.release
                let (more, fault) := tokens fuel lexer
                (released ++ more, fault)

end Lexer

/-- Characters that may occur in a text. -/
def isAllowed (char : Char) : Bool :=
  let code := char.toNat
  code == 0x09 || code == 0x0A || code == 0x0D || (0x20 ≤ code && code ≤ 0x7E) ||
    code == 0x85 || (0xA0 ≤ code && code ≤ 0xFFFD) || 0x10000 ≤ code

/-- The tokens of a text, and the fault at which they break off.  Every token but the
last takes a character, so that there are enough steps. -/
def tokensOf (text : String) : List Token × Option ReadError :=
  let chars := text.toList
  if !chars.all isAllowed then ([], some .character)
  else
    let start : Cursor := ⟨chars, 0, 0, 0⟩
    let start := if start.peek? == some byteOrderMark then start.next else start
    Lexer.tokens (chars.length + 2) { cursor := start }

end AnalyticsQuery.Yaml
