import AnalyticsQuery.Compile.DateBounds
import AnalyticsQuery.Compile.FilterText
import AnalyticsQuery.Compile.Segment
import AnalyticsQuery.Dictionary
import AnalyticsQuery.Query.Basic

/-!
# Request parameters

A query is compiled in eight stages, each of which sets parameters of its own.
The first stage that fails is the failure of the whole.
-/

namespace AnalyticsQuery

inductive ParameterKey where
  | includeEmptyRows
  | ids
  | metrics
  | dimensions
  | startDate
  | endDate
  | filters
  | segment
  | sort
  | maxResults
  deriving DecidableEq, Repr

def ParameterKey.name : ParameterKey → String
  | includeEmptyRows => "include-empty-rows"
  | ids => "ids"
  | metrics => "metrics"
  | dimensions => "dimensions"
  | startDate => "start-date"
  | endDate => "end-date"
  | filters => "filters"
  | segment => "segment"
  | sort => "sort"
  | maxResults => "max-results"

inductive ParameterValue where
  | bool (value : Bool)
  | int (value : Int)
  | text (value : String)
  deriving DecidableEq

def ParameterValue.toDocument : ParameterValue → Document
  | bool value => .bool value
  | int value => .int value
  | text value => .text value

/-- Whether the value is a number that is too long to be written. -/
def ParameterValue.isLong : ParameterValue → Bool
  | int value => Numeral.isLong value
  | _ => false

abbrev Parameters := List (ParameterKey × ParameterValue)

namespace Parameters

/-- Parameters with others added; of a key set twice the later value counts. -/
def update (parameters added : Parameters) : Parameters :=
  added.foldl (fun result entry => storeEntry entry.1 entry.2 result) parameters

def toDocument (parameters : Parameters) : Document :=
  .record (parameters.map fun (key, value) => (key.name, value.toDocument))

/-- A text parameter, if there is a text. -/
def ofText? (key : ParameterKey) (text : Option String) : Parameters :=
  text.toList.map fun value => (key, .text value)

end Parameters

inductive Stage where
  | sourceTable
  | aggregation
  | breakout
  | dateRange
  | filters
  | segment
  | orders
  | limit
  deriving DecidableEq, Repr

def Stage.all : List Stage :=
  [sourceTable, aggregation, breakout, dateRange, filters, segment, orders, limit]

/-- What a compilation reports beside its result. -/
inductive Warning where
  /-- A condition on a bucketed field that gives no bounds of the date range. -/
  | dropped (condition : Condition)
  | limitExceeded (limit maximum : Int)
  deriving DecidableEq

def PlainField.description : PlainField → String
  | id number => "FieldId(kind='field-id', field_id=" ++ Numeral.intText number ++ ")"
  | literal name => "FieldLiteral(kind='field-literal', name=" ++ Text.quoted name ++ ")"

/-- A field with its kind, base field and unit. -/
def Field.description : Field → String
  | plain field => field.description
  | bucketed field unit =>
      "kind='datetime-field' field=" ++ field.description ++ " unit=" ++ unit.name

def Warning.text : Warning → String
  | dropped condition =>
      "Dropping " ++ condition.symbol ++ " on datetime field " ++
        condition.field?.elim "" Field.description ++ ": not expressible as a date range"
  | limitExceeded limit maximum =>
      "Limit " ++ Numeral.intText limit ++ " exceeds the API maximum of " ++
        Numeral.intText maximum

/-- Whether a number that the warning shows is too long to be written. -/
def Warning.isLong : Warning → Bool
  | dropped condition => condition.field?.any fun field => field.base.isLong
  | limitExceeded limit maximum => Numeral.isLong limit || Numeral.isLong maximum

/-- The aggregation that a reference points to. -/
def Query.aggregationAt (query : Query) (index : Int) : Except CompileError Aggregation :=
  match query.aggregationAt? index with
  | some aggregation => .ok aggregation
  | none =>
      .error (CompileError.unlessLong (Numeral.isLong index)
        (.aggregationOutOfRange index query.aggregations.length))

namespace Compiler

variable (compiler : Compiler)

/-- Dimension that reports a field: that of its unit, or the field itself. -/
def dimension : Field → Except CompileError String
  | .plain field => compiler.plainFieldName field
  | .bucketed _ unit => .ok unit.dimension

def sortTarget (query : Query) : OrderTarget → Except CompileError String
  | .field field => compiler.dimension field
  | .aggregation index => do
      match (← query.aggregationAt index).name? with
      | some name => .ok name
      | none =>
          .error (CompileError.unlessLong (Numeral.isLong index) (.unnamedAggregation index))

/-- A sort key; a minus stands for descending order. -/
def sortKey (query : Query) (order : Order) : Except CompileError String := do
  let target ← compiler.sortTarget query order.target
  return match order.direction with
    | .ascending => target
    | .descending => "-" ++ target

def sourceTableParameters (query : Query) : Except CompileError Parameters := do
  let name ← compiler.tableName query.sourceTable
  return [(.ids, .text (compiler.config.tablePrefix ++ name))]

/-- The metrics that have names; the parameter is sent even if none has. -/
def aggregationParameters (query : Query) : Parameters :=
  if query.aggregations.isEmpty then []
  else [(.metrics, .text (",".intercalate (query.aggregations.filterMap Aggregation.name?)))]

def breakoutParameters (query : Query) : Except CompileError Parameters := do
  let dimensions ← query.breakout.mapM compiler.dimension
  return [(.dimensions, .text (",".intercalate dimensions))]

/-- A bound that is missing or blank is the configured one. -/
def boundOr (bound : Option String) (configured : String) : String :=
  (bound.filter (· ≠ "")).getD configured

def dateParameters (query : Query) : Except CompileError Parameters := do
  let range ← compiler.dateRange query.filter
  return [(.startDate, .text (boundOr range.first compiler.config.earliestDate)),
    (.endDate, .text (boundOr range.last compiler.config.latestDate))]

def filterParameters (query : Query) : Except CompileError Parameters := do
  return Parameters.ofText? .filters (← compiler.requestFilter query.filter)

def segmentParameters (query : Query) : Except CompileError Parameters := do
  return Parameters.ofText? .segment (← Filter.segment query.filter)

def orderParameters (query : Query) : Except CompileError Parameters :=
  if query.orders.isEmpty then .ok []
  else do
    let keys ← query.orders.mapM (compiler.sortKey query)
    return [(.sort, .text (",".intercalate keys))]

/-- The warning about a limit that the API does not grant. -/
def limitWarnings (query : Query) : List Warning :=
  match query.limit with
  | none => []
  | some limit =>
      if compiler.config.maxResults < limit then
        [.limitExceeded limit compiler.config.maxResults]
      else []

/-- A limit of which cannot be warned is refused. -/
def limitParameters (query : Query) : Except CompileError Parameters :=
  if (compiler.limitWarnings query).any Warning.isLong then .error .longNumber
  else .ok [(.maxResults, .int (query.limit.getD compiler.config.maxResults))]

def stageParameters (query : Query) : Stage → Except CompileError Parameters
  | .sourceTable => compiler.sourceTableParameters query
  | .aggregation => .ok (aggregationParameters query)
  | .breakout => compiler.breakoutParameters query
  | .dateRange => compiler.dateParameters query
  | .filters => compiler.filterParameters query
  | .segment => segmentParameters query
  | .orders => compiler.orderParameters query
  | .limit => compiler.limitParameters query

def initialParameters : Parameters :=
  [(.includeEmptyRows, .bool compiler.config.includeEmptyRows)]

def compile (query : Query) : Except CompileError Parameters :=
  Stage.all.foldlM
    (fun parameters stage => do
      return Parameters.update parameters (← compiler.stageParameters query stage))
    compiler.initialParameters

/-- Warnings of a compilation that succeeds, in the order in which they arise. -/
def warnings (query : Query) : List Warning :=
  (compiler.droppedConditions query.filter).map .dropped ++ compiler.limitWarnings query

/-- The parameters of a query, once a compilation has reported its warnings and its result.
What cannot be written cannot be reported. -/
def report (query : Query) (parameters : Parameters) : Except CompileError Parameters :=
  if (compiler.warnings query).any Warning.isLong || parameters.any (fun entry => entry.2.isLong)
  then .error .longNumber
  else .ok parameters

/-- A compilation that reports what it does. -/
def compileReported (query : Query) : Except CompileError Parameters := do
  compiler.report query (← compiler.compile query)

end Compiler

end AnalyticsQuery
