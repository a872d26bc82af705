import AnalyticsQuery.Yaml.Token

/-!
# State of a lexer

A colon turns what stands before it on the same line into a key.  The lexer
therefore remembers where a key may have started, one place for each depth of flow
collections, and holds tokens back as long as a key may still start there.
-/

namespace AnalyticsQuery.Yaml

/-- A place where a key may have started. -/
structure KeyStart where
  /-- Number of the token that may be preceded by a mark for the key. -/
  number : Nat
  /-- Nothing but a key can start here. -/
  required : Bool
  index : Nat
  line : Nat
  column : Nat

/-- Most characters between the start of a key and its colon. -/
def longestKey : Nat := 1024

structure Lexer where
  cursor : Cursor
  flowDepth : Nat := 0
  /-- Columns of the block collections that are open, the innermost first. -/
  columns : List Nat := []
  /-- Tokens that are held back. -/
  queue : List Token := []
  /-- Number of tokens given away. -/
  given : Nat := 0
  /-- Whether a key may start at the next token. -/
  keyAllowed : Bool := true
  /-- Places where keys may have started, by depth. -/
  starts : List (Nat × KeyStart) := []
  done : Bool := false

namespace Lexer

def inFlow (lexer : Lexer) : Bool := lexer.flowDepth != 0

def push (lexer : Lexer) (token : Token) : Lexer :=
  { lexer with queue := lexer.queue ++ [token] }

/-- Inserts a token in front of the token with a number. -/
def insertAt (lexer : Lexer) (number : Nat) (token : Token) : Lexer :=
  let place := number - lexer.given
  { lexer with queue := lexer.queue.take place ++ token :: lexer.queue.drop place }

/-- Pushes a token that takes some characters. -/
def pushOver (lexer : Lexer) (width : Nat) (token : Token) : Lexer :=
  { lexer.push token with cursor := lexer.cursor.forward width }

def allowKey (lexer : Lexer) (allowed : Bool) : Lexer := { lexer with keyAllowed := allowed }

/-! ## Keys -/

/-- A key ends on its line and is not too long. -/
def isStale (lexer : Lexer) (start : KeyStart) : Bool :=
  start.line != lexer.cursor.line || longestKey < lexer.cursor.index - start.index

/-- Forgets places that are too far back. -/
def dropStale (lexer : Lexer) : Except ReadError Lexer :=
  if lexer.starts.any fun (_, start) => lexer.isStale start && start.required then .error .lexical
  else .ok { lexer with starts := lexer.starts.filter fun (_, start) => !lexer.isStale start }

def start? (lexer : Lexer) : Option KeyStart := lexer.starts.lookup lexer.flowDepth

def forget (lexer : Lexer) : Lexer :=
  { lexer with starts := lexer.starts.filter fun (depth, _) => depth != lexer.flowDepth }

/-- Forgets the place at this depth, where no key started after all. -/
def dropStart (lexer : Lexer) : Except ReadError Lexer :=
  if lexer.start?.any (·.required) then .error .lexical else .ok lexer.forget

/-- Remembers that a key may start here. -/
def saveStart (lexer : Lexer) : Except ReadError Lexer :=
  if lexer.keyAllowed then do
    let cursor := lexer.cursor
    let required := !lexer.inFlow && lexer.columns.head? == some cursor.column
    let number := lexer.given + lexer.queue.length
    let lexer ← lexer.dropStart
    return { lexer with
      starts := lexer.starts ++
        [(lexer.flowDepth, ⟨number, required, cursor.index, cursor.line, cursor.column⟩)] }
  else .ok lexer

/-! ## Indentation -/

/-- Closes the block collections for which `closes` holds of their column. -/
def closeBlocks (closes : Nat → Bool) (lexer : Lexer) : Lexer :=
  if lexer.inFlow then lexer
  else
    let closed := lexer.columns.takeWhile closes
    { lexer with
      columns := lexer.columns.drop closed.length
      queue := lexer.queue ++ closed.map fun _ => .blockEnd }

/-- Whether a column is further right than the innermost block collection. -/
def isDeeper (lexer : Lexer) (column : Nat) : Bool := lexer.columns.head?.all (· < column)

/-- Opens a block collection in front of a token, unless one is open in its column. -/
def openBlock (lexer : Lexer) (column number : Nat) (token : Token) : Lexer :=
  if lexer.isDeeper column then
    { lexer.insertAt number token with columns := column :: lexer.columns }
  else lexer

/-- Opens a block collection here. -/
def openBlockHere (lexer : Lexer) (token : Token) : Lexer :=
  lexer.openBlock lexer.cursor.column (lexer.given + lexer.queue.length) token

end Lexer

end AnalyticsQuery.Yaml
