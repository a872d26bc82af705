import AnalyticsQuery.Form.Filter
import AnalyticsQuery.Proofs.Compile.Between
import AnalyticsQuery.Proofs.Compile.Failures

/-!
# Guards of a compilation

Where units, relations and kinds of clauses come as names, a computation has to guard
against names that it does not know, and against days after today that it is asked to count
back.  A compilation in which every such step goes by name gives what a compilation gives:
none of its guards is ever hit.
-/

namespace AnalyticsQuery

open Calendar (Bounds CalendarError CalendarUnit NamedError TimeRelation WallTime ZonedTime
  comparisonDaysNamed unitNamed withUnit)
open Fallible FilterText

/-- What a compilation by names may run into. -/
inductive GuardedError where
  /-- What any compilation may. -/
  | failed (error : CompileError)
  /-- A name or a day of which a calendar computation can make nothing. -/
  | refused (error : NamedError)
  /-- A clause of a kind that has no text. -/
  | unknownClause (kind : String)
  deriving DecidableEq

/-- Steps without guards. -/
def unguarded {α : Type} (result : Except CompileError α) : Except GuardedError α :=
  result.mapError .failed

/-- Calendar computations by name. -/
def ofNamed {α : Type} : Except NamedError α → Except GuardedError α
  | .ok value => .ok value
  | .error (.calendar error) => .error (.failed (.calendar error))
  | .error .longNumber => .error (.failed .longNumber)
  | .error error => .error (.refused error)

namespace Compiler

variable (compiler : Compiler)

/-! ## Compiling by names -/

def relativeTimeNamed (amount : Int) (unitName : String) : Except GuardedError WallTime := do
  let now ← unguarded compiler.now
  let start ← ofNamed (withUnit unitName now.truncate)
  ofNamed (withUnit unitName fun unit => start.add unit amount)

def operandTextNamed : Operand → Except GuardedError String
  | .literal value _ => unguarded (ofWritten value.displayText?)
  | .relative amount unit => do
      let known ← ofNamed (unitNamed unit.name)
      if known.normalize = .day ∧ amount ≤ 0 then ofNamed (DayBound.relativeText amount)
      else do return (← compiler.relativeTimeNamed amount unit.name).date.requestText
  | .absolute timestamp unit => do
      let time ← unguarded (ofCalendar (timestamp.inZone compiler.config.zone))
      return (← ofNamed (withUnit unit.name time.truncate)).date.requestText

/-- The sides of a range that a relation sets, if its symbol is known. -/
def sidesNamed? (symbol text : String) : Option DateRange :=
  if symbol = "<" ∨ symbol = "<=" then some ⟨none, some text⟩
  else if symbol = ">" ∨ symbol = ">=" then some ⟨some text, none⟩
  else if symbol = "=" then some ⟨some text, some text⟩
  else none

/-- Range of `day symbol today + offset`, if the day to count to is not after today. -/
def dayRangeNamed (symbol : String) (offset : Int) :
    Except GuardedError (Option DateRange) :=
  let shifted := if symbol = "<" then offset - 1 else if symbol = ">" then offset + 1 else offset
  if 0 < shifted then .ok none
  else do return sidesNamed? symbol (← ofNamed (DayBound.relativeText shifted))

def bucketRangeNamed (unitName symbol : String) (time : WallTime) :
    Except GuardedError DateRange := do
  let days ← ofNamed (comparisonDaysNamed time unitName symbol)
  return .ofBounds (days.map .date)

/-- Range of a comparison with a count of units, if it is one of days up to today. -/
def countedRangeNamed (symbol : String) (amount : Int) (unitName : String) :
    Except GuardedError (Option DateRange) := do
  let known ← ofNamed (unitNamed unitName)
  if known.normalize = .day then dayRangeNamed symbol amount else .ok none

def operandRangeNamed (unitName symbol : String) : Operand → Except GuardedError DateRange
  | .relative amount unit => do
      match ← countedRangeNamed symbol amount unit.name with
      | some range => return range
      | none => do
          bucketRangeNamed unitName symbol (← compiler.relativeTimeNamed amount unit.name)
  | .absolute timestamp _ => do
      bucketRangeNamed unitName symbol
        (← unguarded (ofCalendar (timestamp.inZone compiler.config.zone)))
  | .literal value typeInfo => do
      let text ← compiler.operandTextNamed (.literal value typeInfo)
      return (sidesNamed? symbol text).getD ⟨some text, some text⟩

/-- The symbols of conditions that give bounds of the date range. -/
def dateRangeSymbols : List String := ["=", "<", "<=", ">", ">=", "between"]

def isDateRangeNamed (leaf : Condition) : Bool :=
  leaf.onBucketedField && leaf.symbol ∈ dateRangeSymbols

def conditionRangeNamed (leaf : Condition) : Except GuardedError (Option DateRange) :=
  if isDateRangeNamed leaf then
    match leaf with
    | .comparison operator field value => do
        return some (← compiler.operandRangeNamed field.unit.name operator.symbol value)
    | .between field lower upper => do
        let first ← compiler.operandRangeNamed field.unit.name ">=" lower
        let last ← compiler.operandRangeNamed field.unit.name "<=" upper
        unguarded (mergeRanges (some first) (some last))
    | .textMatch _ _ _ _ => .ok none
    | .segment _ => .ok none
  else .ok none

mutual

def filterRangeNamed : Filter → Except GuardedError (Option DateRange)
  | .condition leaf => compiler.conditionRangeNamed leaf
  | .junction operator children => do
      unguarded (combineRanges operator (← filterRangesNamed children))
  | .negation child =>
      if child.leaves.any isDateRangeNamed then .error (.failed .negatedDateRange) else .ok none

def filterRangesNamed : List Filter → Except GuardedError (List (Option DateRange))
  | [] => .ok []
  | child :: children => do
      let range ← filterRangeNamed child
      return range :: (← filterRangesNamed children)

end

def clauseTextsNamed : Condition → Except GuardedError (List String)
  | .comparison operator field value => do
      let name ← unguarded (compiler.fieldName field)
      let text ← compiler.operandTextNamed value
      return [name ++ operator.filterOperator ++ text]
  | .between field lower upper => do
      let name ← unguarded (compiler.fieldName field)
      let lowerText ← compiler.operandTextNamed lower
      let upperText ← compiler.operandTextNamed upper
      return [name ++ ">=" ++ lowerText, name ++ "<=" ++ upperText]
  | .textMatch operator field value caseSensitive => do
      let text ← compiler.operandTextNamed value
      let name ← unguarded (compiler.fieldName field)
      return [name ++ "=~" ++ caseFlag caseSensitive ++ operator.anchor (escapeRegex text)]
  | .segment id =>
      .error (.failed (CompileError.unlessLong id.isLong (.unexpandedSegment id)))

end Compiler

/-- The tag by which the kind of a filter is known. -/
def Filter.tag : Filter → FilterTag
  | condition (.comparison operator _ _) => .condition (.comparison operator)
  | condition (.between _ _ _) => .condition .between
  | condition (.textMatch operator _ _ _) => .condition (.textMatch operator)
  | condition (.segment _) => .condition .segment
  | junction operator _ => .junction operator
  | negation _ => .negation

/-- Guards against a filter of a kind that has no text. -/
def ofKnownKind {α : Type} (filter : Filter) (text : Except GuardedError α) :
    Except GuardedError α :=
  match FilterTag.ofName? filter.tag.name with
  | some _ => text
  | none => .error (.unknownClause filter.tag.name)

namespace Compiler

variable (compiler : Compiler)

mutual

def filterTextNamed : Filter → Except GuardedError (Option String)
  | .condition leaf => ofKnownKind (.condition leaf) do
      let clauses ← compiler.clauseTextsNamed leaf
      return some (andSeparator.intercalate (clauses.map escapeClause))
  | .junction operator children => ofKnownKind (.junction operator children) do
      return some (operator.separator.intercalate (nonEmpty (← filterTextsNamed children)))
  | .negation child => ofKnownKind (.negation child) do
      return ((← filterTextNamed child).filter (· ≠ "")).map ("!" ++ ·)

def filterTextsNamed : List Filter → Except GuardedError (List (Option String))
  | [] => .ok []
  | child :: children => do
      let text ← filterTextNamed child
      return text :: (← filterTextsNamed children)

end

def dimensionNamed : Field → Except GuardedError String
  | .plain field => unguarded (compiler.plainFieldName field)
  | .bucketed _ unit => do return (← ofNamed (unitNamed unit.name)).dimension

def sortKeyNamed (query : Query) (order : Order) : Except GuardedError String := do
  let target ← match order.target with
    | .field field => compiler.dimensionNamed field
    | .aggregation index => unguarded (compiler.sortTarget query (.aggregation index))
  return match order.direction with
    | .ascending => target
    | .descending => "-" ++ target

def stageParametersNamed (query : Query) : Stage → Except GuardedError Parameters
  | .breakout => do
      let dimensions ← query.breakout.mapM compiler.dimensionNamed
      return [(.dimensions, .text (",".intercalate dimensions))]
  | .dateRange => do
      let found ← query.filter.elim (.ok none) compiler.filterRangeNamed
      let range := found.getD compiler.fullRange
      return [(.startDate, .text (boundOr range.first compiler.config.earliestDate)),
        (.endDate, .text (boundOr range.last compiler.config.latestDate))]
  | .filters => do
      let text ← (query.filter.bind Filter.textHalf).elim (.ok none) compiler.filterTextNamed
      return Parameters.ofText? .filters (text.filter fun text => !Text.allBlank text)
  | .orders =>
      if query.orders.isEmpty then .ok []
      else do
        let keys ← query.orders.mapM (compiler.sortKeyNamed query)
        return [(.sort, .text (",".intercalate keys))]
  | stage => unguarded (compiler.stageParameters query stage)

def compileNamed (query : Query) : Except GuardedError Parameters :=
  Stage.all.foldlM
    (fun parameters stage => do
      return Parameters.update parameters (← compiler.stageParametersNamed query stage))
    compiler.initialParameters

end Compiler

/-! ## Guards that are not hit -/

theorem unguarded_bind {α β : Type} (first : Except CompileError α)
    (next : α → Except CompileError β) :
    unguarded (first >>= next) = unguarded first >>= fun value => unguarded (next value) :=
  mapError_bind GuardedError.failed first next

theorem unguarded_pure {α : Type} (value : α) :
    unguarded (pure value) = (pure value : Except GuardedError α) := rfl

theorem unguarded_mapM {α β : Type} (step : α → Except CompileError β) (items : List α) :
    unguarded (items.mapM step) = items.mapM fun item => unguarded (step item) :=
  mapError_mapM GuardedError.failed step items

theorem unguarded_foldlM {α β : Type} (step : β → α → Except CompileError β)
    (items : List α) (start : β) :
    unguarded (items.foldlM step start) =
      items.foldlM (fun result item => unguarded (step result item)) start :=
  mapError_foldlM GuardedError.failed step items start

theorem unitNamed_name (unit : CalendarUnit) : unitNamed unit.name = .ok unit := by
  rw [unitNamed, CalendarUnit.ofName?_name]

theorem ofNamed_unitNamed (unit : CalendarUnit) :
    ofNamed (unitNamed unit.name) = pure unit := by
  rw [unitNamed_name]
  rfl

theorem ofNamed_mapError {α : Type} (result : Except CalendarError α) :
    ofNamed (result.mapError .calendar) = unguarded (ofCalendar result) := by
  cases result <;> rfl

theorem ofNamed_withUnit {α : Type} (unit : CalendarUnit)
    (compute : CalendarUnit → Except CalendarError α) :
    ofNamed (withUnit unit.name compute) = unguarded (ofCalendar (compute unit)) := by
  rw [← ofNamed_mapError, withUnit, unitNamed_name]
  rfl

theorem ofNamed_comparisonDaysNamed (time : WallTime) (unit : CalendarUnit)
    (relation : TimeRelation) :
    ofNamed (comparisonDaysNamed time unit.name relation.symbol) =
      unguarded (ofCalendar (time.comparisonDays unit relation)) := by
  have hsymbol : TimeRelation.ofSymbol? relation.symbol = some relation := by
    cases relation <;> decide
  rw [comparisonDaysNamed, hsymbol]
  exact ofNamed_withUnit unit fun unit => time.comparisonDays unit relation

theorem ofNamed_relativeText {offset : Int} (h : offset ≤ 0) :
    ofNamed (DayBound.relativeText offset) =
      unguarded (ofWritten (DayBound.daysAgoText? (-offset).toNat)) := by
  rw [DayBound.relativeText, if_neg (not_lt.2 h)]
  cases DayBound.daysAgoText? (-offset).toNat <;> rfl

theorem ofKnownKind_eq {α : Type} (filter : Filter) (text : Except GuardedError α) :
    ofKnownKind filter text = text := by
  rw [ofKnownKind, FilterTag.ofName?_name]

namespace Compiler

variable {compiler : Compiler}

theorem relativeTimeNamed_eq (amount : Int) (unit : CalendarUnit) :
    compiler.relativeTimeNamed amount unit.name =
      unguarded (compiler.relativeTime amount unit) := by
  simp only [relativeTimeNamed, relativeTime, unguarded_bind, ofNamed_withUnit]

theorem operandTextNamed_eq (operand : Operand) :
    compiler.operandTextNamed operand = unguarded (compiler.operandText operand) := by
  cases operand with
  | literal value typeInfo => rfl
  | absolute timestamp unit =>
      simp only [operandTextNamed, operandText, unguarded_bind, ofNamed_withUnit, unguarded_pure]
  | relative amount unit =>
      rw [operandTextNamed, operandText, ofNamed_unitNamed, pure_bind]
      by_cases hcounted : unit.normalize = .day ∧ amount ≤ 0
      · rw [if_pos hcounted, if_pos hcounted, ofNamed_relativeText hcounted.2]
      · rw [if_neg hcounted, if_neg hcounted, relativeTimeNamed_eq, unguarded_bind]
        rfl

/-- The range of days that are counted back, if there are any. -/
def rangeOfCounted : Option (Bounds DayBound) → Except CompileError (Option DateRange)
  | none => .ok none
  | some bounds => do return some (.ofBounds (← writableBounds bounds))

/-- The day to count to is tested before it is counted to. -/
theorem dayRangeNamed_eq (relation : TimeRelation) (offset : Int) :
    dayRangeNamed relation.symbol offset =
      unguarded (rangeOfCounted (relativeDayBounds? relation offset)) := by
  have htested : ∀ shifted : Int,
      (if 0 < shifted then .ok none
        else do return sidesNamed? relation.symbol (← ofNamed (DayBound.relativeText shifted)) :
          Except GuardedError (Option DateRange)) =
        unguarded (rangeOfCounted (if 0 < shifted then none
          else some (relation.restrict ⟨some (.daysAgo (-shifted).toNat),
            some (.daysAgo (-shifted).toNat)⟩))) := by
    intro shifted
    by_cases hfuture : 0 < shifted
    · rw [if_pos hfuture, if_pos hfuture, rangeOfCounted]
      rfl
    · rw [if_neg hfuture, if_neg hfuture, ofNamed_relativeText (not_lt.1 hfuture),
        rangeOfCounted, writableBounds_daysAgo, DayBound.daysAgoText?]
      by_cases hlong : Numeral.isLong (-shifted).toNat = true
      · rw [if_pos hlong, if_pos hlong]
        rfl
      · rw [if_neg hlong, if_neg hlong]
        cases relation <;> rfl
  cases relation with
  | before => exact htested (offset - 1)
  | notAfter => exact htested offset
  | after => exact htested (offset + 1)
  | notBefore => exact htested offset
  | within => exact htested offset

theorem countedRangeNamed_eq (relation : TimeRelation) (amount : Int) (unit : CalendarUnit) :
    countedRangeNamed relation.symbol amount unit.name =
      unguarded (rangeOfCounted
        (if unit.normalize = .day then relativeDayBounds? relation amount else none)) := by
  rw [countedRangeNamed, ofNamed_unitNamed, pure_bind, dayRangeNamed_eq]
  split <;> rfl

theorem bucketRangeNamed_eq (relation : TimeRelation) (unit : CalendarUnit) (time : WallTime) :
    bucketRangeNamed unit.name relation.symbol time =
      unguarded (do return .ofBounds (← bucketBounds relation unit time)) := by
  simp only [bucketRangeNamed, bucketBounds, unguarded_bind, ofNamed_comparisonDaysNamed,
    unguarded_pure, bind_assoc, pure_bind]

theorem operandRangeNamed_eq (relation : TimeRelation) (unit : CalendarUnit)
    (operand : Operand) :
    compiler.operandRangeNamed unit.name relation.symbol operand =
      unguarded (do return .ofBounds (← compiler.operandBounds relation unit operand)) := by
  cases operand with
  | literal value typeInfo =>
      rw [operandRangeNamed, operandTextNamed_eq, operandBounds]
      cases compiler.operandText (.literal value typeInfo) with
      | error error => rfl
      | ok text => cases relation <;> rfl
  | absolute timestamp valueUnit =>
      simp only [operandRangeNamed, operandBounds, unguarded_bind, bucketRangeNamed_eq,
        bind_assoc]
  | relative amount valueUnit =>
      rw [operandRangeNamed, operandBounds, countedRangeNamed_eq]
      cases (if valueUnit.normalize = .day then relativeDayBounds? relation amount else none) with
      | some bounds =>
          change _ = unguarded (do return DateRange.ofBounds (← writableBounds bounds))
          rw [rangeOfCounted]
          cases writableBounds bounds <;> rfl
      | none =>
          change (compiler.relativeTimeNamed amount valueUnit.name >>= fun time =>
            bucketRangeNamed unit.name relation.symbol time) = _
          simp only [unguarded_bind, relativeTimeNamed_eq, bucketRangeNamed_eq, bind_assoc]

theorem isDateRangeNamed_eq (leaf : Condition) : isDateRangeNamed leaf = leaf.isDateRange := by
  cases leaf with
  | comparison operator field value =>
      cases field with
      | plain field => rfl
      | bucketed field unit => cases operator <;> rfl
  | between field lower upper => cases field <;> rfl
  | textMatch operator field value caseSensitive =>
      cases field with
      | plain field => rfl
      | bucketed field unit => cases operator <;> rfl
  | segment id => rfl

theorem conditionRangeNamed_eq (leaf : Condition) :
    compiler.conditionRangeNamed leaf = unguarded (compiler.conditionRange leaf) := by
  unfold conditionRangeNamed
  rw [isDateRangeNamed_eq]
  by_cases hdate : leaf.isDateRange = true
  · rw [if_pos hdate]
    cases leaf with
    | comparison operator field value =>
        cases field with
        | plain field => exact nomatch hdate
        | bucketed field unit =>
            have hrelation : operator.timeRelation?.isSome := hdate
            obtain ⟨relation, hrelation⟩ := Option.isSome_iff_exists.1 hrelation
            have hsymbol : operator.symbol = relation.symbol := by
              cases operator <;> cases hrelation <;> rfl
            change (do
              return some (← compiler.operandRangeNamed unit.name operator.symbol value)) = _
            rw [conditionRange_comparison hrelation, hsymbol, operandRangeNamed_eq]
            cases compiler.operandBounds relation unit value <;> rfl
    | between field lower upper =>
        cases field with
        | plain field => exact nomatch hdate
        | bucketed field unit =>
            change (do
              let first ← compiler.operandRangeNamed unit.name TimeRelation.notBefore.symbol lower
              let last ← compiler.operandRangeNamed unit.name TimeRelation.notAfter.symbol upper
              unguarded (mergeRanges (some first) (some last))) = _
            rw [operandRangeNamed_eq, operandRangeNamed_eq, conditionRange, conditionBounds]
            cases hfirst : compiler.operandBounds .notBefore unit lower with
            | error error => rfl
            | ok lowerBounds =>
                cases hlast : compiler.operandBounds .notAfter unit upper with
                | error error => rfl
                | ok upperBounds =>
                    rw [← restrict_operandBounds hfirst, ← restrict_operandBounds hlast]
                    exact congrArg unguarded (mergeRanges_sides _ _)
    | textMatch operator field value caseSensitive => rfl
    | segment id => rfl
  · rw [if_neg hdate, conditionRange_of_not_dateRange (eq_false_of_ne_true hdate)]
    rfl

theorem filterRangesNamed_eq_mapM (children : List Filter) :
    compiler.filterRangesNamed children = children.mapM compiler.filterRangeNamed := by
  induction children with
  | nil => rfl
  | cons child children ih => rw [filterRangesNamed, ih, List.mapM_cons]

theorem filterRangeNamed_eq (filter : Filter) :
    compiler.filterRangeNamed filter = unguarded (compiler.filterRange filter) := by
  induction filter using Filter.treeInduction with
  | condition leaf => exact conditionRangeNamed_eq leaf
  | junction operator children ih =>
      rw [filterRangeNamed, filterRangesNamed_eq_mapM, filterRange_junction, unguarded_bind,
        unguarded_mapM, mapM_congr ih]
  | negation child _ =>
      have hsame : isDateRangeNamed = Condition.isDateRange := funext isDateRangeNamed_eq
      rw [filterRangeNamed, filterRange, hsame]
      split <;> rfl

theorem clauseTextsNamed_eq (leaf : Condition) :
    compiler.clauseTextsNamed leaf = unguarded (compiler.clauseTexts leaf) := by
  cases leaf with
  | comparison operator field value =>
      simp only [clauseTextsNamed, clauseTexts, operandTextNamed_eq, unguarded_bind,
        unguarded_pure]
  | between field lower upper =>
      simp only [clauseTextsNamed, clauseTexts, operandTextNamed_eq, unguarded_bind,
        unguarded_pure]
  | textMatch operator field value caseSensitive =>
      simp only [clauseTextsNamed, clauseTexts, operandTextNamed_eq, unguarded_bind,
        unguarded_pure]
  | segment id => rfl

theorem filterTextsNamed_eq_mapM (children : List Filter) :
    compiler.filterTextsNamed children = children.mapM compiler.filterTextNamed := by
  induction children with
  | nil => rfl
  | cons child children ih => rw [filterTextsNamed, ih, List.mapM_cons]

theorem filterTextNamed_eq (filter : Filter) :
    compiler.filterTextNamed filter = unguarded (compiler.filterText filter) := by
  induction filter using Filter.treeInduction with
  | condition leaf =>
      rw [filterTextNamed, ofKnownKind_eq, clauseTextsNamed_eq, filterText, conditionText]
      simp only [unguarded_bind, unguarded_pure, bind_assoc, pure_bind]
  | junction operator children ih =>
      rw [filterTextNamed, ofKnownKind_eq, filterTextsNamed_eq_mapM, filterText_junction,
        unguarded_bind, unguarded_mapM, mapM_congr ih]
      rfl
  | negation child ih =>
      rw [filterTextNamed, ofKnownKind_eq, ih, filterText_negation, unguarded_bind]
      rfl

theorem dimensionNamed_eq (field : Field) :
    compiler.dimensionNamed field = unguarded (compiler.dimension field) := by
  cases field with
  | plain field => rfl
  | bucketed field unit =>
      rw [dimensionNamed, ofNamed_unitNamed]
      rfl

theorem sortKeyNamed_eq (query : Query) (order : Order) :
    compiler.sortKeyNamed query order = unguarded (compiler.sortKey query order) := by
  rw [sortKeyNamed, sortKey, unguarded_bind]
  cases order.target with
  | field field =>
      simp only [dimensionNamed_eq, sortTarget]
      rfl
  | aggregation index => rfl

theorem stageParametersNamed_eq (query : Query) (stage : Stage) :
    compiler.stageParametersNamed query stage =
      unguarded (compiler.stageParameters query stage) := by
  cases stage with
  | breakout =>
      have hdimensions : query.breakout.mapM compiler.dimensionNamed =
          query.breakout.mapM fun field => unguarded (compiler.dimension field) :=
        mapM_congr fun field _ => dimensionNamed_eq field
      rw [stageParametersNamed, stageParameters, breakoutParameters, unguarded_bind,
        unguarded_mapM, hdimensions]
      rfl
  | dateRange =>
      rw [stageParametersNamed, stageParameters, dateParameters, unguarded_bind]
      cases query.filter with
      | none => rfl
      | some filter =>
          rw [Option.elim_some, filterRangeNamed_eq, dateRange, filterRange_normalizeUnits]
          cases compiler.filterRange filter <;> rfl
  | filters =>
      rw [stageParametersNamed, stageParameters, filterParameters, requestFilter]
      cases query.filter.bind Filter.textHalf with
      | none => rfl
      | some half =>
          rw [Option.elim_some, filterTextNamed_eq, optionalFilterText]
          cases compiler.filterText half <;> rfl
  | orders =>
      have hkeys : query.orders.mapM (compiler.sortKeyNamed query) =
          query.orders.mapM fun order => unguarded (compiler.sortKey query order) :=
        mapM_congr fun order _ => sortKeyNamed_eq query order
      rw [stageParametersNamed, stageParameters, orderParameters, hkeys, ← unguarded_mapM]
      split
      · rfl
      · rw [unguarded_bind]
        rfl
  | sourceTable => rfl
  | aggregation => rfl
  | segment => rfl
  | limit => rfl

/-- No guard of a compilation by names is hit. -/
theorem compileNamed_eq (compiler : Compiler) (query : Query) :
    compiler.compileNamed query = unguarded (compiler.compile query) := by
  rw [compileNamed, compile, unguarded_foldlM]
  simp only [stageParametersNamed_eq, unguarded_bind]
  rfl

/-- Where names come from dictionaries, only accountable errors escape a compilation: those
with which the compiler refuses a query, and others only for an aggregation that does not exist
or a moment of the filter that leaves the years of the calendar.  One error has no such cause,
and it arises only from a number that is too long to be written.  A compilation by names does
the same. -/
theorem compile_accountable (metadata : Metadata) (clock : ZonedTime) (config : Config)
    (query : Query) :
    let compiler : Compiler := ⟨metadata.provider, clock, config⟩
    (∀ error, compiler.compile query = .error error →
      compiler.Accountable query error ∨ error = .longNumber ∧ query.HasLongNumber config) ∧
    (∀ error, compiler.compileReported query = .error error →
      compiler.Accountable query error ∨ error = .longNumber ∧ query.HasLongNumber config) ∧
    compiler.compileNamed query = (compiler.compile query).mapError .failed := by
  intro compiler
  exact ⟨accountable_compile rfl, accountable_compileReported rfl, compileNamed_eq compiler query⟩

/-- The last year of the calendar has no end, and two aggregations have no third one. -/
theorem compile_accountable_at_ends :
    let metadata : Metadata := { tables := [(.number 1, "123")] }
    let compiler : Compiler := { bare with metadata := metadata.provider }
    let query : Query :=
      { sourceTable := .number 1, aggregations := [.metric (.name "ga:hits"), .reference 0]
        breakout := [], filter := none, orders := [⟨.ascending, .aggregation (-3)⟩], limit := none }
    let endless : Query :=
      { query with
        filter := some (.condition (.comparison .atMost (.bucketed (.id 7) .year)
          (.absolute (.day ⟨3651900, by decide⟩) .day))) }
    compiler.compile query = .error (.aggregationOutOfRange (-3) 2) ∧
      compiler.Accountable query (.aggregationOutOfRange (-3) 2) ∧
      compiler.compile endless = .error (.calendar (.yearOutOfRange 10000)) ∧
      compiler.Accountable endless (.calendar (.yearOutOfRange 10000)) ∧
      compiler.compileNamed endless =
        (.error (.failed (.calendar (.yearOutOfRange 10000))) :
          Except GuardedError Parameters) := by
  intro metadata compiler query endless
  have hquery : compiler.compile query = .error (.aggregationOutOfRange (-3) 2) := by
    decide +kernel
  have hendless : compiler.compile endless = .error (.calendar (.yearOutOfRange 10000)) := by
    decide +kernel
  obtain ⟨haccountable, _, hnamed⟩ := compile_accountable metadata bare.clock bare.config endless
  have haggregation := (compile_accountable metadata bare.clock bare.config query).1 _ hquery
  have hcalendar := haccountable _ hendless
  refine ⟨hquery, haggregation.resolve_right (by simp), hendless,
    hcalendar.resolve_right (by simp), ?_⟩
  rw [hnamed]
  exact congrArg (Except.mapError GuardedError.failed) hendless

/-- Days are counted and constants are written without the calendar, and neither can be
if a number has more than 4300 digits.  The strict comparison counts one day more than the
amount, which has 4300 digits itself. -/
theorem not_accountable_longNumber :
    let compiler : Compiler :=
      { bare with metadata := Metadata.provider { tables := [(.number 1, "123")] } }
    let counted : Condition :=
      .comparison .less (.bucketed (.literal "ga:date") .day) (.relative (1 - 10 ^ 4300) .day)
    let constant : Condition :=
      .comparison .equal (.plain (.literal "ga:hits")) (.literal (.int (10 ^ 4300)) none)
    let query (leaf : Condition) : Query :=
      { sourceTable := .number 1, aggregations := [], breakout := []
        filter := some (.condition leaf), orders := [], limit := none }
    (compiler.compile (query counted) = .error .longNumber ∧ compiler.instants counted = [] ∧
      ¬compiler.Accountable (query counted) .longNumber) ∧
    compiler.compile (query constant) = .error .longNumber ∧ compiler.instants constant = [] ∧
      ¬compiler.Accountable (query constant) .longNumber :=
  ⟨⟨by decide +kernel, by decide +kernel, id⟩, by decide +kernel, by decide +kernel, id⟩

end Compiler

end AnalyticsQuery
