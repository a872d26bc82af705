import AnalyticsQuery.Yaml.Assembly.Basic

/-!
# Assembling a node

A collection that is being assembled counts as empty inside itself.  Every function that
reads nodes counts down from the number of tokens.
-/

namespace AnalyticsQuery.Yaml.Assembly

/-- Where a node stands, which decides what it may be. -/
inductive Place where
  /-- In a flow collection. -/
  | flow
  | block
  /-- In a block mapping, where the items of a sequence need no indentation. -/
  | entry
  deriving DecidableEq

/-- Reads a node unless the next token is one of those that follow an empty one. -/
def unlessAt (ends : List Token) (read : Assembly Node) : Assembly Node := do
  if (← peek) ∈ ends then return Node.empty else read

mutual

def node (place : Place) : Nat → Assembly Node
  | 0 => fail .grammar
  | fuel + 1 => do
      match ← peek with
      | .alias name => do
          skip
          named name
      | _ => do
          let properties ← properties
          let token ← peek
          if ← properties.anchor.elim (pure false) isNamed then fail .reference
          let node ← content place properties token fuel
          name properties.anchor node
          return node

/-- A node without its properties. -/
def content (place : Place) (properties : Properties) (token : Token) : Nat → Assembly Node
  | 0 => fail .grammar
  | fuel + 1 => do
      let sequence (read : Assembly (List Node)) : Assembly Node := do
        let kind := properties.kind .sequence
        name properties.anchor (.sequence kind [])
        return .sequence kind (← read)
      let mapping (read : Assembly (List (Node × Node))) : Assembly Node := do
        let kind := properties.kind .mapping
        name properties.anchor (.mapping kind [])
        return .mapping kind (← read)
      match token, place with
      | .scalar text plain, _ => do
          skip
          return .scalar (properties.scalarKind text plain) text
      | .flowSequenceStart, _ => do
          skip
          sequence (flowItems true fuel)
      | .flowMappingStart, _ => do
          skip
          mapping (flowEntries true fuel)
      | .blockEntry, .entry => sequence (looseItems fuel)
      | .blockSequenceStart, .block | .blockSequenceStart, .entry => do
          skip
          sequence (blockItems fuel)
      | .blockMappingStart, .block | .blockMappingStart, .entry => do
          skip
          mapping (blockEntries fuel)
      | _, _ =>
          if properties.isEmpty then fail .grammar
          else return .scalar (properties.scalarKind "" true) ""

/-- Items of a block sequence, up to its end. -/
def blockItems : Nat → Assembly (List Node)
  | 0 => fail .grammar
  | fuel + 1 => do
      match ← peek with
      | .blockEntry => do
          skip
          let item ← unlessAt [.blockEntry, .blockEnd] (node .block fuel)
          return item :: (← blockItems fuel)
      | _ => do
          expect .blockEnd
          return []

/-- Items of a sequence that ends where its mapping goes on. -/
def looseItems : Nat → Assembly (List Node)
  | 0 => fail .grammar
  | fuel + 1 => do
      match ← peek with
      | .blockEntry => do
          skip
          let item ← unlessAt [.blockEntry, .key, .value, .blockEnd] (node .block fuel)
          return item :: (← looseItems fuel)
      | _ => return []

/-- Entries of a block mapping, up to its end. -/
def blockEntries : Nat → Assembly (List (Node × Node))
  | 0 => fail .grammar
  | fuel + 1 => do
      match ← peek with
      | .key => do
          skip
          let key ← unlessAt [.key, .value, .blockEnd] (node .entry fuel)
          let value ← entryValue .entry [.key, .value, .blockEnd] fuel
          return (key, value) :: (← blockEntries fuel)
      | _ => do
          expect .blockEnd
          return []

/-- The value of an entry, which may be left out together with its mark. -/
def entryValue (place : Place) (ends : List Token) : Nat → Assembly Node
  | 0 => fail .grammar
  | fuel + 1 => do
      match ← peek with
      | .value => do
          skip
          unlessAt ends (node place fuel)
      | _ => return Node.empty

/-- Items of a flow sequence, up to its end.  An item with a key is a mapping. -/
def flowItems (first : Bool) : Nat → Assembly (List Node)
  | 0 => fail .grammar
  | fuel + 1 => do
      if (← peek) = .flowSequenceEnd then
        skip
        return []
      unless first do expect .flowEntry
      match ← peek with
      | .flowSequenceEnd => do
          skip
          return []
      | .key => do
          skip
          let key ← unlessAt [.value, .flowEntry, .flowSequenceEnd] (node .flow fuel)
          let value ← entryValue .flow [.flowEntry, .flowSequenceEnd] fuel
          return .mapping .mapping [(key, value)] :: (← flowItems false fuel)
      | _ => do
          let item ← node .flow fuel
          return item :: (← flowItems false fuel)

/-- Entries of a flow mapping, up to its end.  What has no mark is a key alone. -/
def flowEntries (first : Bool) : Nat → Assembly (List (Node × Node))
  | 0 => fail .grammar
  | fuel + 1 => do
      if (← peek) = .flowMappingEnd then
        skip
        return []
      unless first do expect .flowEntry
      match ← peek with
      | .flowMappingEnd => do
          skip
          return []
      | .key => do
          skip
          let key ← unlessAt [.value, .flowEntry, .flowMappingEnd] (node .flow fuel)
          let value ← entryValue .flow [.flowEntry, .flowMappingEnd] fuel
          return (key, value) :: (← flowEntries false fuel)
      | _ => do
          let key ← node .flow fuel
          return (key, Node.empty) :: (← flowEntries false fuel)

end

end AnalyticsQuery.Yaml.Assembly
