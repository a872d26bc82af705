import AnalyticsQuery.Calendar.Bucket
import AnalyticsQuery.Query.Field
import AnalyticsQuery.Query.Operand

/-!
# Filters

A filter is a tree of conditions under conjunctions, disjunctions and negations.
The conditions are its leaves: comparisons, ranges, text matches, and references
to segments.
-/

namespace AnalyticsQuery

open Calendar (TimeRelation)

inductive Comparison where
  | equal
  | notEqual
  | less
  | atMost
  | greater
  | atLeast
  deriving DecidableEq, Repr

namespace Comparison

def all : List Comparison := [equal, notEqual, less, atMost, greater, atLeast]

def symbol : Comparison → String
  | equal => "="
  | notEqual => "!="
  | less => "<"
  | atMost => "<="
  | greater => ">"
  | atLeast => ">="

/-- The relation to a bucket of time that a comparison asks for; being different
from a bucket is no range of days. -/
def timeRelation? : Comparison → Option TimeRelation
  | equal => some .within
  | notEqual => none
  | less => some .before
  | atMost => some .notAfter
  | greater => some .after
  | atLeast => some .notBefore

end Comparison

inductive TextMatch where
  | contains
  | startsWith
  | endsWith
  deriving DecidableEq, Repr

namespace TextMatch

def all : List TextMatch := [contains, startsWith, endsWith]

def symbol : TextMatch → String
  | contains => "contains"
  | startsWith => "starts-with"
  | endsWith => "ends-with"

end TextMatch

/-- A leaf of a filter. -/
inductive Condition where
  | comparison (operator : Comparison) (field : Field) (value : Operand)
  | between (field : Field) (lower upper : Operand)
  | textMatch (operator : TextMatch) (field : Field) (value : Operand) (caseSensitive : Bool)
  | segment (id : Identifier)
  deriving DecidableEq

namespace Condition

def symbol : Condition → String
  | comparison operator _ _ => operator.symbol
  | between _ _ _ => "between"
  | textMatch operator _ _ _ => operator.symbol
  | segment _ => "segment"

def field? : Condition → Option Field
  | comparison _ field _ => some field
  | between field _ _ => some field
  | textMatch _ field _ _ => some field
  | segment _ => none

def onBucketedField (condition : Condition) : Bool :=
  condition.field?.any Field.isBucketed

/-- A comparison or a range on a bucketed field gives bounds of the date range;
`!=` and text matches do not. -/
def isDateRange (condition : Condition) : Bool :=
  condition.onBucketedField &&
    match condition with
    | comparison operator _ _ => operator.timeRelation?.isSome
    | between _ _ _ => true
    | textMatch _ _ _ _ => false
    | segment _ => false

/-- On a bucketed field, but of no use for the date range. -/
def isDropped (condition : Condition) : Bool :=
  condition.onBucketedField && !condition.isDateRange

end Condition

/-- Segments whose name starts with `ga:` or `gaid:` are built into the API. -/
def Identifier.isBuiltinSegment : Identifier → Bool
  | number _ => false
  | name value => "ga:".toList.isPrefixOf value.toList || "gaid:".toList.isPrefixOf value.toList

def Condition.isBuiltinSegment : Condition → Bool
  | segment id => id.isBuiltinSegment
  | _ => false

inductive Junction where
  | and
  | or
  deriving DecidableEq, Repr

def Junction.symbol : Junction → String
  | and => "and"
  | or => "or"

inductive Filter where
  | condition (condition : Condition)
  | junction (operator : Junction) (children : List Filter)
  | negation (child : Filter)

namespace Filter

/-- The condition, if a filter is a single one. -/
def condition? : Filter → Option Condition
  | condition leaf => some leaf
  | _ => none

mutual

def leaves : Filter → List Condition
  | condition leaf => [leaf]
  | junction _ children => leavesOf children
  | negation child => leaves child

/-- Conditions of several filters, those of the first one first. -/
def leavesOf : List Filter → List Condition
  | [] => []
  | child :: children => leaves child ++ leavesOf children

end

/-! ## Equality -/

mutual

def same : Filter → Filter → Bool
  | condition left, condition right => left = right
  | junction leftOperator lefts, junction rightOperator rights =>
      leftOperator = rightOperator && sameChildren lefts rights
  | negation left, negation right => same left right
  | _, _ => false

def sameChildren : List Filter → List Filter → Bool
  | [], [] => true
  | left :: lefts, right :: rights => same left right && sameChildren lefts rights
  | _, _ => false

end

mutual

theorem same_iff : ∀ left right : Filter, same left right = true ↔ left = right
  | .condition _, right => by cases right <;> simp [same]
  | .junction _ children, right => by
      cases right <;> simp [same, sameChildren_iff children]
  | .negation child, right => by cases right <;> simp [same, same_iff child]

theorem sameChildren_iff : ∀ lefts rights : List Filter,
    sameChildren lefts rights = true ↔ lefts = rights
  | [], rights => by cases rights <;> simp [sameChildren]
  | left :: lefts, rights => by
      cases rights <;> simp [sameChildren, same_iff left, sameChildren_iff lefts]

end

instance : DecidableEq Filter := fun left right =>
  decidable_of_iff (same left right = true) (same_iff left right)

end Filter

end AnalyticsQuery
