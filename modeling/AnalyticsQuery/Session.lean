import AnalyticsQuery.Compile.Parameters
import AnalyticsQuery.Form.Config
import AnalyticsQuery.Form.Metadata
import AnalyticsQuery.Form.Query

/-!
# Sessions

A session keeps one compiler and at most one query between its steps.  The compiler has
components, each of which refers to an object with settings; they are made to refer to the
same one, so that an assignment to its attributes reaches all of them.  A step may look at
everything and change everything, also if it fails in the end.
-/

namespace AnalyticsQuery

open Calendar (WallTime ZoneDatabase ZonedTime)

/-- The objects with settings to which the components of a compiler refer. -/
structure Components where
  /-- What sets the parameters that do not depend on the query. -/
  compiler : Nat
  /-- What reads the clock and writes operands. -/
  resolver : Nat
  /-- What names tables and columns, and limits pages. -/
  mapper : Nat
  /-- What finds the date range. -/
  dateRange : Nat
  deriving DecidableEq

/-- Components that are made together refer to one object. -/
def Components.sharing (reference : Nat) : Components :=
  ⟨reference, reference, reference, reference⟩

structure Session where
  metadata : Metadata
  clock : ZonedTime
  /-- The attributes of all objects with settings. -/
  objects : Nat → Attributes
  components : Components
  held : Option Query := none

/-- A compiler that is new, with the given attributes of its settings. -/
def Session.new (metadata : Metadata) (clock : ZonedTime) (attributes : Attributes) : Session :=
  { metadata, clock, objects := fun _ => attributes, components := .sharing 0 }

inductive Step where
  | compile (query : Document)
  /-- Reads a query and keeps it. -/
  | hold (query : Document)
  | compileHeld
  /-- Assigns to an attribute of the settings to which the compiler itself refers. -/
  | assignSetting (name : String) (value : Document)
  | setTables (entries : Document.Entries)
  | setFields (entries : Document.Entries)
  | setClock (clock : ZonedTime)
  | render (operand : Document)
  | aggregationAt (index : Int)

inductive Answer where
  | parameters (parameters : Parameters)
  | document (document : Document)
  | tableCount (count : Nat)
  | fieldCount (count : Nat)
  | now (time : WallTime)
  | text (text : String)

/-- Why a step or a whole request fails. -/
inductive Failure where
  | rejected (issues : List Issue)
  | broken (fault : Fault)
  | compilation (error : CompileError)
  /-- The attributes to which a component refers are not those of settings. -/
  | unsettled
  /-- A step asks for a part of the kept query, and there is none. -/
  | nothingHeld
  deriving DecidableEq

def Reading.toExcept {α : Type} : Reading α → Except Failure α
  | .ok value => .ok value
  | .rejected issues => .error (.rejected issues)
  | .broken fault => .error (.broken fault)

/-- Compilation steps as steps that may also fail to read something. -/
def ofCompilation {α : Type} (result : Except CompileError α) : Except Failure α :=
  result.mapError .compilation

/-- What may look at a session and change it.  What has changed stays changed if it fails. -/
abbrev Action (α : Type) : Type := ExceptT Failure (StateM Session) α

namespace Action

variable {α : Type}

def runFrom (action : Action α) (session : Session) : Except Failure α × Session :=
  StateT.run (ExceptT.run action) session

/-- A result that has nothing to do with the session. -/
def ofResult (result : Except Failure α) : Action α := ExceptT.mk (pure result)

end Action

namespace Session

open Action (ofResult)

section Steps

variable (zones : ZoneDatabase)

/-- The compiler as one of its components knows it. -/
def compilerOf (component : Components → Nat) : Action Compiler := do
  let session ← get
  match Config.ofAttributes? zones (session.objects (component session.components)) with
  | some config => return ⟨session.metadata.provider, session.clock, config⟩
  | none => throw .unsettled

/-- The parameters of a stage, from the settings to which the component with the stage refers.
Dates are found with the current time of another component, which has to be in the same zone. -/
def stageParameters (query : Query) : Stage → Action Parameters
  | .dateRange => do
      let clock ← compilerOf zones Components.resolver
      let compiler ← compilerOf zones Components.dateRange
      if clock.config.zone.name = compiler.config.zone.name then
        ofResult (ofCompilation (compiler.stageParameters query .dateRange))
      else throw .unsettled
  | .filters => do
      let compiler ← compilerOf zones Components.resolver
      ofResult (ofCompilation (compiler.stageParameters query .filters))
  | stage => do
      let compiler ← compilerOf zones Components.mapper
      ofResult (ofCompilation (compiler.stageParameters query stage))

def addStage (query : Query) (parameters : Parameters) (stage : Stage) : Action Parameters := do
  return Parameters.update parameters (← stageParameters zones query stage)

/-- Runs all stages of a compilation and reports it. -/
def compile (query : Query) : Action Parameters := do
  let compiler ← compilerOf zones Components.compiler
  let parameters ← Stage.all.foldlM (addStage zones query) compiler.initialParameters
  let mapper ← compilerOf zones Components.mapper
  ofResult (ofCompilation (mapper.report query parameters))

def perform : Step → Action Answer
  | .compile document => do
      let query ← ofResult (Query.read document).toExcept
      return .parameters (← compile zones query)
  | .hold document => do
      let query ← ofResult (Query.read document).toExcept
      modify fun session => { session with held := some query }
      return .document query.toDocument
  | .compileHeld => do
      match (← get).held with
      | none => throw (.rejected [.here .modelType])
      | some query => return .parameters (← compile zones query)
  | .assignSetting name value => do
      let session ← get
      let reference := session.components.compiler
      let attributes ← ofResult
        (Config.assign zones (session.objects reference) name value).toExcept
      let objects := fun other =>
        if other = reference then attributes else session.objects other
      set { session with objects }
      return .document (Config.shown attributes)
  | .setTables entries => do
      let tables ← ofResult (Metadata.readTables entries).toExcept
      modify fun session => { session with metadata := { session.metadata with tables } }
      return .tableCount tables.length
  | .setFields entries => do
      let fields ← ofResult (Metadata.readFields entries).toExcept
      modify fun session => { session with metadata := { session.metadata with fields } }
      return .fieldCount fields.length
  | .setClock clock => do
      -- the clock is set even if it cannot be read in the zone of the report
      modify fun session => { session with clock }
      let compiler ← compilerOf zones Components.resolver
      return .now (← ofResult (ofCompilation compiler.now))
  | .render document => do
      let operand ← ofResult (Operand.read document).toExcept
      let compiler ← compilerOf zones Components.resolver
      return .text (← ofResult (ofCompilation (compiler.operandText operand)))
  | .aggregationAt index => do
      match (← get).held with
      | none => throw .nothingHeld
      | some query =>
          let aggregation ← ofResult (ofCompilation (query.aggregationAt index))
          return .document aggregation.toDocument

end Steps

/-- The answer to a step, and the session after it. -/
def step (zones : ZoneDatabase) (session : Session) (step : Step) :
    Except Failure Answer × Session :=
  (perform zones step).runFrom session

/-- The answers to some steps, one after another. -/
def run (zones : ZoneDatabase) (session : Session) : List Step → List (Except Failure Answer)
  | [] => []
  | next :: steps =>
      (session.step zones next).1 :: run zones (session.step zones next).2 steps

end Session

end AnalyticsQuery
