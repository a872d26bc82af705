import AnalyticsQuery.Yaml.Assembly.Node
import AnalyticsQuery.Yaml.Lexer

/-!
# Assembling a document

A text holds one document at most, which marks may enclose and directives precede.
-/

namespace AnalyticsQuery.Yaml

namespace Assembly

/-- The handles that every document knows. -/
def standardHandles : List (String × String) := [("!", "!"), ("!!", Tag.family)]

/-- The directives in front of a document.  Each handle and the version are given at
most once, and there is one version. -/
def directives (versioned : Bool) : Nat → Assembly Unit
  | 0 => fail .grammar
  | fuel + 1 => do
      match ← peek with
      | .directive (.version major) => do
          if versioned || major != 1 then fail .grammar
          skip
          directives true fuel
      | .directive (.handle handle replacement) => do
          if ((← get).handles.lookup handle).isSome then fail .grammar
          skip
          modify fun unread => { unread with handles := (handle, replacement) :: unread.handles }
          directives versioned fuel
      | .directive .unknown => do
          skip
          directives versioned fuel
      | _ => modify fun unread => { unread with handles := unread.handles ++ standardHandles }

/-- The mark at the start of a document, with the directives in front of it. -/
def documentStart (fuel : Nat) : Assembly Unit := do
  modify fun unread => { unread with handles := [] }
  directives false fuel
  expect .documentStart

def isDirective : Token → Bool
  | .directive _ => true
  | _ => false

/-- Skips the marks at the end of a document; there may be several. -/
def skipDocumentEnds : Nat → Assembly Unit
  | 0 => fail .grammar
  | fuel + 1 => do
      if (← peek) = .documentEnd then
        skip
        skipDocumentEnds fuel

/-- The root of the document, or nothing if there is none. -/
def root (fuel : Nat) : Assembly (Option Node) := do
  match ← peek with
  | .textEnd => return none
  | token =>
      if isDirective token || token = .documentStart then
        documentStart fuel
        let token ← peek
        if isDirective token then return some Node.empty
        else some <$> unlessAt [.documentStart, .documentEnd, .textEnd] (node .block fuel)
      else
        modify fun unread => { unread with handles := standardHandles }
        some <$> node .block fuel

/-- The end of the text.  Another document is one too many. -/
def finish (fuel : Nat) : Assembly Unit := do
  skipDocumentEnds fuel
  if (← peek) ≠ .textEnd then
    documentStart fuel
    fail .reference

def document (fuel : Nat) : Assembly (Option Node) := do
  let root ← root fuel
  finish fuel
  return root

end Assembly

/-- The root node of a text, or nothing if the text holds no document. -/
def rootOf (text : String) : Except ReadError (Option Node) :=
  let (tokens, fault) := tokensOf text
  (Assembly.document (4 * tokens.length + 4)).run' { tokens, fault }

end AnalyticsQuery.Yaml
