import AnalyticsQuery.Document.Key
import AnalyticsQuery.Yaml.Assembly.Document
import AnalyticsQuery.Yaml.Scalar

/-!
# YAML texts as documents

The document that a tree of nodes stands for.  Collections are filled one level
after another, so that of several faults the one nearest to the root counts.  A
merge key puts the entries of other mappings in front of those of its own mapping.
-/

namespace AnalyticsQuery.Yaml

/-- A fault, and how many levels below a node it lies. -/
structure DeepFault where
  depth : Nat
  error : ReadError

abbrev Built := Except DeepFault Document

/-- The first of the faults that are nearest to the root. -/
def nearest : List DeepFault → Option DeepFault
  | [] => none
  | fault :: faults =>
      match nearest faults with
      | some other => some (if other.depth < fault.depth then other else fault)
      | none => some fault

def faultOf? : Built → Option DeepFault
  | .ok _ => none
  | .error fault => some fault

/-- The fault that a collection has because of a part. -/
def DeepFault.raised (fault : DeepFault) : DeepFault := ⟨fault.depth + 1, fault.error⟩

/-- Items of a sequence, filled one level later. -/
def builtList (items : List Built) : Built :=
  match nearest (items.filterMap faultOf?) with
  | some fault => .error fault.raised
  | none => .ok (.list (items.filterMap Except.toOption))

/-- Entries of a mapping, filled one level later. -/
def builtObject (entries : List (Built × Built)) : Built :=
  let parts := entries.flatMap fun entry => [entry.1, entry.2]
  match nearest (parts.filterMap faultOf?) with
  | some fault => .error fault.raised
  | none =>
      .ok (.object (Document.distinctEntries (entries.filterMap fun entry =>
        match entry with
        | (.ok key, .ok value) => some (key, value)
        | _ => none)))

/-- A set, which is the list of its members, filled one level later. -/
def builtSet (entries : List (Built × Built)) : Built :=
  match builtObject entries with
  | .ok (.object members) => .ok (.list (members.map (·.1)))
  | built => built

def pairItems : List Document → List Document
  | key :: value :: rest => .list [key, value] :: pairItems rest
  | _ => []

/-- A list of pairs, given keys and values by turns, filled one level later. -/
def builtPairs (parts : List Built) : Built :=
  match builtList parts with
  | .ok (.list parts) => .ok (.list (pairItems parts))
  | built => built

def noValue : Built := .error ⟨0, .construction⟩

/-- A collection of the wrong kind is refused when it would be filled. -/
def unfilled : Built := .error ⟨1, .construction⟩

/-- What a text stands for, if there is one. -/
def builtScalar (tag : Tag) (text : Option String) : Built :=
  match text with
  | some text => (tag.value text).mapError (⟨0, ·⟩)
  | none => noValue

/-- Entries in front of which others are put. -/
structure Merged where
  inFront : List (Built × Built) := []
  own : List (Built × Built) := []

def Merged.all (merged : Merged) : List (Built × Built) := merged.inFront ++ merged.own

/-- A collection of merged entries, unless merging fails, which shows one level later. -/
def builtMerged (build : List (Built × Built) → Built) : Except ReadError Merged → Built
  | .ok merged => build merged.all
  | .error error => .error ⟨1, error⟩

namespace Node

def isMergeKey (key : Node) : Bool := key.tag = .merge

/-- A key, which has a text.  The mark for a default value is a text there. -/
def buildKey (key : Node) : Built :=
  builtScalar (if key.tag = .default then .text else key.tag) key.text?

mutual

def build : Node → Built
  | .scalar tag text => if tag.isCollection then unfilled else builtScalar tag (some text)
  | .sequence tag items =>
      match tag with
      | .sequence => builtList (buildEach items)
      | .pairs => builtPairs (buildPairs items)
      | tag => if tag.isCollection then unfilled else noValue
  | .mapping tag entries =>
      match tag with
      | .mapping => builtMerged builtObject (mergeEntries entries)
      | .set => builtMerged builtSet (mergeEntries entries)
      | tag => if tag.isCollection then unfilled else builtScalar tag (defaultText? entries)

def buildEach : List Node → List Built
  | [] => []
  | item :: items => build item :: buildEach items

/-- Keys and values of mappings with one entry each. -/
def buildPairs : List Node → List Built
  | [] => []
  | .mapping _ [(key, value)] :: items => build key :: build value :: buildPairs items
  | _ :: _ => [noValue]

def mergeEntries : List (Node × Node) → Except ReadError Merged
  | [] => .ok {}
  | (key, value) :: entries => do
      if key.isMergeKey then
        let brought ← entriesOf value
        let merged ← mergeEntries entries
        return { merged with inFront := brought ++ merged.inFront }
      else
        let merged ← mergeEntries entries
        return { merged with own := (buildKey key, build value) :: merged.own }

/-- The entries that a merge key brings in.  Of several mappings the last one goes first. -/
def entriesOf : Node → Except ReadError (List (Built × Built))
  | .mapping _ entries => return (← mergeEntries entries).all
  | .sequence _ items => return (← entriesOfEach items).reverse.flatten
  | .scalar _ _ => .error .construction

def entriesOfEach : List Node → Except ReadError (List (List (Built × Built)))
  | [] => .ok []
  | .mapping _ entries :: items => do
      let merged ← mergeEntries entries
      return merged.all :: (← entriesOfEach items)
  | _ :: _ => .error .construction

end

end Node

/-- Reads a text; one without a document is null. -/
def read (text : String) : Except ReadError Document := do
  match ← rootOf text with
  | none => return .null
  | some node => node.build.mapError (·.error)

end AnalyticsQuery.Yaml
