import AnalyticsQuery.Yaml.Node
import AnalyticsQuery.Yaml.Token

/-!
# Assembling nodes from tokens

What is left of the tokens of a text, and the names that are known so far.  A node
that is named by an anchor can be used again wherever an alias names it.
-/

namespace AnalyticsQuery.Yaml

/-- What is left to read of a document, and the names that are known in it. -/
structure Unread where
  tokens : List Token
  /-- The fault at which the tokens break off. -/
  fault : Option ReadError
  anchors : List (String × Node) := []
  handles : List (String × String) := []

abbrev Assembly := StateT Unread (Except ReadError)

namespace Assembly

def fail {α : Type} (error : ReadError) : Assembly α := throw error

def peek : Assembly Token := do
  let unread ← get
  match unread.tokens with
  | token :: _ => return token
  | [] => fail (unread.fault.getD .grammar)

def skip : Assembly Unit := modify fun unread => { unread with tokens := unread.tokens.drop 1 }

/-- Skips one given token, or finds the grammar broken. -/
def expect (token : Token) : Assembly Unit := do
  if (← peek) = token then skip else fail .grammar

/-! ## Names -/

/-- The node that an alias names. -/
def named (name : String) : Assembly Node := do
  match (← get).anchors.lookup name with
  | some node => return node
  | none => fail .reference

def isNamed (name : String) : Assembly Bool := do
  return ((← get).anchors.lookup name).isSome

def name (anchor : Option String) (node : Node) : Assembly Unit :=
  match anchor with
  | none => pure ()
  | some anchor => modify fun unread => { unread with anchors := (anchor, node) :: unread.anchors }

def tagName (handle : Option String) (text : String) : Assembly String := do
  match handle with
  | none => return text
  | some handle =>
      match (← get).handles.lookup handle with
      | some replacement => return replacement ++ text
      | none => fail .grammar

/-- What may stand in front of a node, in either order. -/
structure Properties where
  anchor : Option String := none
  tag : Option String := none

namespace Properties

def isEmpty (properties : Properties) : Bool :=
  properties.anchor.isNone && properties.tag.isNone

/-- The kind of a node: a tag of its own, or what it is without one. -/
def kind (properties : Properties) (untagged : Tag) : Tag :=
  match properties.tag with
  | none => untagged
  | some "!" => untagged
  | some name => Tag.ofName name

/-- The kind of a scalar.  The mark for no special kind takes the effect of quotes away. -/
def scalarKind (properties : Properties) (text : String) (plain : Bool) : Tag :=
  if plain || properties.tag == some "!" then properties.kind (Tag.ofPlain text)
  else properties.kind .text

end Properties

def properties : Assembly Properties := do
  let (anchor, tag) ← match ← peek with
    | .anchor anchor => do
        skip
        match ← peek with
        | .tag handle name => do
            skip
            pure (some anchor, some (handle, name))
        | _ => pure (some anchor, none)
    | .tag handle name => do
        skip
        match ← peek with
        | .anchor anchor => do
            skip
            pure (some anchor, some (handle, name))
        | _ => pure (none, some (handle, name))
    | _ => pure (none, none)
  match tag with
  | none => return ⟨anchor, none⟩
  | some (handle, name) => return ⟨anchor, some (← tagName handle name)⟩

end Assembly

end AnalyticsQuery.Yaml
