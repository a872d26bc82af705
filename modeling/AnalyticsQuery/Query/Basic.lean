import AnalyticsQuery.Query.Filter

/-!
# Queries

What is asked of one table: the metrics to report, the fields to group by, a
filter, an order of the rows and a limit on their number.
-/

namespace AnalyticsQuery

/-- A metric by its name or number, or a reference to another aggregation of the query. -/
inductive Aggregation where
  | metric (name : Identifier)
  | reference (index : Int)
  deriving DecidableEq

namespace Aggregation

/-- Name of a metric that has one; only those are reported. -/
def name? : Aggregation → Option String
  | metric identifier => identifier.name?
  | reference _ => none

end Aggregation

inductive Direction where
  | ascending
  | descending
  deriving DecidableEq, Repr

namespace Direction

def all : List Direction := [ascending, descending]

def name : Direction → String
  | ascending => "asc"
  | descending => "desc"

def ofName? (name : String) : Option Direction := all.find? (·.name = name)

end Direction

inductive OrderTarget where
  | field (field : Field)
  | aggregation (index : Int)
  deriving DecidableEq

structure Order where
  direction : Direction
  target : OrderTarget
  deriving DecidableEq

structure Query where
  sourceTable : Identifier
  aggregations : List Aggregation
  breakout : List Field
  filter : Option Filter
  orders : List Order
  limit : Option Int
  deriving DecidableEq

/-- The aggregation at an index; a negative index counts from the end. -/
def Query.aggregationAt? (query : Query) (index : Int) : Option Aggregation :=
  if 0 ≤ index then query.aggregations[index.toNat]?
  else if -(query.aggregations.length : Int) ≤ index then
    query.aggregations[(query.aggregations.length + index).toNat]?
  else none

end AnalyticsQuery
