import AnalyticsQuery.Query.Field

/-!
# Metadata

The names of tables and fields by their identifiers.
-/

namespace AnalyticsQuery

/-- What an identifier was meant to identify. -/
inductive ReferenceKind where
  | table
  | field
  deriving DecidableEq, Repr

namespace ReferenceKind

def name : ReferenceKind → String
  | table => "table"
  | field => "field"

/-- Says that nothing of a kind has the identifier written as `identifier`. -/
def unresolvedMessage (kind : ReferenceKind) (identifier : String) : String :=
  "No " ++ kind.name ++ " with id " ++ identifier

end ReferenceKind

structure Metadata where
  tables : List (Identifier × String) := []
  fields : List (Int × String) := []
  deriving DecidableEq

namespace Metadata

def tableName? (metadata : Metadata) (table : Identifier) : Option String :=
  metadata.tables.lookup table

def fieldName? (metadata : Metadata) (field : Int) : Option String :=
  metadata.fields.lookup field

end Metadata

end AnalyticsQuery
