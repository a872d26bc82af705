import AnalyticsQuery.Proofs.Calendar.Years
import AnalyticsQuery.Proofs.Compile.Clock
import AnalyticsQuery.Proofs.Compile.Numbers

/-!
# Why compilations fail

A compilation fails if it refuses a query, if an order refers to an aggregation that does
not exist, if a moment of the filter cannot be computed within the years of the calendar, or
if a number is too long to be written.  It fails for no other reason.
-/

namespace AnalyticsQuery

open Calendar (Bounds CalendarUnit Granularity InYears TimeRelation Timestamp WallTime ZonedTime)
open Fallible

namespace Compiler

variable {compiler : Compiler} {query : Query}

/-! ## Instants of an operand -/

/-- The current time on the report's clocks, in any year. -/
def nowReading (compiler : Compiler) : Int :=
  compiler.config.zone.reading compiler.clock.universal

/-- The start of the unit that is reached by counting from the current one, in any year. -/
def relativeReading (compiler : Compiler) (amount : Int) (unit : CalendarUnit) : Int :=
  unit.granularity.start (unit.granularity.index compiler.nowReading + amount)

/-- The instants by which a relative moment is found: those by which the clock is read, the
start of the current unit, and that of the unit reached. -/
def relativeInstants (compiler : Compiler) (amount : Int) (unit : CalendarUnit) : List Int :=
  compiler.clock.instants compiler.config.zone ++
    [unit.granularity.floor compiler.nowReading, compiler.relativeReading amount unit]

/-- The instants by which the bounds of a comparison are found.  Days counted back from
today are left to the API. -/
def boundInstants (compiler : Compiler) (relation : TimeRelation) (unit : CalendarUnit) :
    Operand → List Int
  | .literal _ _ => []
  | .relative amount valueUnit =>
      if valueUnit.normalize = .day ∧ amount ≤ relation.latestDay then []
      else
        compiler.relativeInstants amount valueUnit ++
          relation.instants unit.granularity (compiler.relativeReading amount valueUnit)
  | .absolute timestamp _ =>
      timestamp.instants compiler.config.zone ++
        relation.instants unit.granularity (timestamp.reading compiler.config.zone)

/-- The instants by which the text of an operand is found. -/
def textInstants (compiler : Compiler) : Operand → List Int
  | .literal _ _ => []
  | .relative amount unit =>
      if unit.normalize = .day ∧ amount ≤ 0 then [] else compiler.relativeInstants amount unit
  | .absolute timestamp unit =>
      timestamp.instants compiler.config.zone ++
        [unit.granularity.floor (timestamp.reading compiler.config.zone)]

theorem exists_ofCalendar_iff {α : Type} {result : Except Calendar.CalendarError α} :
    (∃ value, ofCalendar result = .ok value) ↔ ∃ value, result = .ok value := by
  simp only [ofCalendar_eq_ok_iff]

theorem now_eq_ok_iff {now : WallTime} :
    compiler.now = .ok now ↔
      InYears compiler.clock.universal ∧ now.microseconds = compiler.nowReading := by
  rw [Compiler.now, ofCalendar_eq_ok_iff, ZonedTime.inZone_eq_ok_iff]
  rfl

theorem exists_now_iff :
    (∃ now, compiler.now = .ok now) ↔
      ∀ instant ∈ compiler.clock.instants compiler.config.zone, InYears instant := by
  rw [← ZonedTime.exists_inZone_iff, ← exists_ofCalendar_iff]
  rfl

theorem microseconds_of_relativeTime {amount : Int} {unit : CalendarUnit} {time : WallTime}
    (h : compiler.relativeTime amount unit = .ok time) :
    time.microseconds = compiler.relativeReading amount unit := by
  obtain ⟨now, hnow, _⟩ := bind_eq_ok_iff.1 h
  rw [microseconds_relativeTime hnow h, (now_eq_ok_iff.1 hnow).2]
  rfl

/-- A relative moment is found exactly if no instant by which it is leaves the years of the
calendar. -/
theorem exists_relativeTime_iff {amount : Int} {unit : CalendarUnit} :
    (∃ time, compiler.relativeTime amount unit = .ok time) ↔
      ∀ instant ∈ compiler.relativeInstants amount unit, InYears instant := by
  rw [relativeInstants, List.forall_mem_append, ← exists_now_iff]
  simp only [List.forall_mem_cons]
  constructor
  · rintro ⟨time, h⟩
    have hreading := microseconds_of_relativeTime h
    obtain ⟨now, hnow, hmoved⟩ := bind_eq_ok_iff.1 h
    obtain ⟨start, hstart, _⟩ := bind_eq_ok_iff.1 hmoved
    rw [ofCalendar_eq_ok_iff, WallTime.truncate_eq_ok_iff] at hstart
    rw [← (now_eq_ok_iff.1 hnow).2, ← hstart, ← hreading]
    exact ⟨⟨now, hnow⟩, start.inYears, time.inYears,
      fun _ hnone => absurd hnone List.not_mem_nil⟩
  · rintro ⟨⟨now, hnow⟩, hfloor, hreading, _⟩
    have hnowReading := (now_eq_ok_iff.1 hnow).2
    rw [← hnowReading] at hfloor
    obtain ⟨start, hstart⟩ := WallTime.exists_truncate_iff.2 hfloor
    have hgrid := WallTime.truncate_eq_ok_iff.1 hstart
    rw [Granularity.floor_eq_start, hnowReading] at hgrid
    refine exists_bind_eq_ok_iff.2 ⟨now, hnow, ?_⟩
    refine exists_bind_eq_ok_iff.2 ⟨start, ofCalendar_eq_ok_iff.2 hstart, ?_⟩
    rw [exists_ofCalendar_iff, WallTime.exists_add_iff hgrid]
    exact hreading

theorem exists_bucketBounds_iff {relation : TimeRelation} {unit : CalendarUnit}
    {time : WallTime} :
    (∃ bounds, bucketBounds relation unit time = .ok bounds) ↔
      ∀ instant ∈ relation.instants unit.granularity time.microseconds, InYears instant := by
  rw [← WallTime.exists_comparisonDays_iff, ← exists_ofCalendar_iff, bucketBounds,
    exists_bind_eq_ok_iff]
  constructor
  · rintro ⟨days, hdays, _⟩
    exact ⟨days, hdays⟩
  · rintro ⟨days, hdays⟩
    exact ⟨days, hdays, _, rfl⟩

/-! ## Errors of an operand -/

def IsCalendar (error : CompileError) : Prop := ∃ cause, error = .calendar cause

/-- What may go wrong with an operand: a calendar computation, or a number that is too long
to be written. -/
def IsOperandError (operand : Operand) (error : CompileError) : Prop :=
  IsCalendar error ∨ error = .longNumber ∧ operand.isLong = true

theorem failsOnly_ofCalendar {α : Type} (result : Except Calendar.CalendarError α) :
    FailsOnly IsCalendar (ofCalendar result) := by
  cases result with
  | ok value => exact .ok value
  | error cause => exact .error ⟨cause, rfl⟩

theorem failsOnly_relativeTime (amount : Int) (unit : CalendarUnit) :
    FailsOnly IsCalendar (compiler.relativeTime amount unit) :=
  (failsOnly_ofCalendar _).bind fun _ => (failsOnly_ofCalendar _).bind fun _ =>
    failsOnly_ofCalendar _

theorem failsOnly_bucketBounds (relation : TimeRelation) (unit : CalendarUnit)
    (time : WallTime) : FailsOnly IsCalendar (bucketBounds relation unit time) :=
  (failsOnly_ofCalendar _).bind fun _ => .ok _

theorem failsOnly_literal (value : Document) (typeInfo : Option Document.Parts) :
    FailsOnly (fun error => error = .longNumber ∧ (Operand.literal value typeInfo).isLong = true)
      (compiler.operandText (.literal value typeInfo)) := by
  rw [operandText, Document.displayText?, Operand.isLong]
  by_cases hlong : value.hasLongNumber = true
  · rw [if_pos hlong]
    exact .error ⟨rfl, hlong⟩
  · rw [if_neg hlong]
    exact .ok _

theorem failsOnly_operandBounds (relation : TimeRelation) (unit : CalendarUnit)
    (operand : Operand) :
    FailsOnly (IsOperandError operand) (compiler.operandBounds relation unit operand) := by
  cases operand with
  | literal value typeInfo =>
      exact FailsOnly.bind ((failsOnly_literal value typeInfo).imp fun _ => .inr) fun _ => .ok _
  | absolute timestamp valueUnit =>
      exact FailsOnly.imp ((failsOnly_ofCalendar _).bind fun _ =>
        failsOnly_bucketBounds relation unit _) fun _ => .inl
  | relative amount valueUnit =>
      rw [operandBounds]
      split
      · rename_i bounds hbounds
        rw [Option.ite_none_right_eq_some] at hbounds
        exact fun error herror => .inr (isLong_of_writableBounds hbounds.2 herror)
      · exact FailsOnly.imp ((failsOnly_relativeTime amount valueUnit).bind fun _ =>
          failsOnly_bucketBounds relation unit _) fun _ => .inl

theorem failsOnly_operandText (operand : Operand) :
    FailsOnly (IsOperandError operand) (compiler.operandText operand) := by
  cases operand with
  | literal value typeInfo => exact (failsOnly_literal value typeInfo).imp fun _ => .inr
  | absolute timestamp unit =>
      exact FailsOnly.imp ((failsOnly_ofCalendar _).bind fun _ =>
        (failsOnly_ofCalendar _).bind fun _ => .ok _) fun _ => .inl
  | relative amount unit =>
      rw [operandText]
      split
      · rw [DayBound.daysAgoText?]
        split
        · rename_i hlong
          refine .error (.inr ⟨rfl, ?_⟩)
          rw [Operand.isLong, Numeral.isLong_of_natAbs_le (by omega) hlong, Bool.true_or]
        · exact .ok _
      · exact FailsOnly.imp ((failsOnly_relativeTime amount unit).bind fun _ => .ok _)
          fun _ => .inl

/-! ## Instants that stay in the years of the calendar -/

/-- A result that no calendar computation has kept from being found. -/
def WithinYears {α : Type} (result : Except CompileError α) : Prop :=
  FailsOnly (· = .longNumber) result

theorem withinYears_iff_exists {α : Type} {result : Except CompileError α}
    (h : FailsOnly IsCalendar result) : WithinYears result ↔ ∃ value, result = .ok value := by
  cases result with
  | ok value => exact iff_of_true (.ok value) ⟨value, rfl⟩
  | error error =>
      obtain ⟨cause, rfl⟩ := h error rfl
      exact iff_of_false (fun hlong => nomatch hlong _ rfl) fun ⟨_, hvalue⟩ => nomatch hvalue

theorem withinYears_ofWritten {α : Type} (value : Option α) : WithinYears (ofWritten value) := by
  cases value with
  | some value => exact .ok value
  | none => exact .error rfl

theorem withinYears_writableBounds (bounds : Bounds DayBound) :
    WithinYears (writableBounds bounds) := by
  rw [writableBounds]
  split
  · exact .error rfl
  · exact .ok bounds

/-- No calendar computation keeps bounds from being found exactly if no instant by which they
are leaves the years of the calendar. -/
theorem withinYears_operandBounds_iff {relation : TimeRelation} {unit : CalendarUnit}
    {operand : Operand} :
    WithinYears (compiler.operandBounds relation unit operand) ↔
      ∀ instant ∈ compiler.boundInstants relation unit operand, InYears instant := by
  cases operand with
  | literal value typeInfo =>
      exact iff_of_true (FailsOnly.bind (withinYears_ofWritten _) fun _ => .ok _)
        fun _ hnone => absurd hnone List.not_mem_nil
  | absolute timestamp valueUnit =>
      rw [operandBounds, withinYears_iff_exists ((failsOnly_ofCalendar _).bind fun _ =>
        failsOnly_bucketBounds relation unit _), boundInstants, List.forall_mem_append,
        ← Timestamp.exists_inZone_iff, exists_bind_eq_ok_iff]
      simp only [ofCalendar_eq_ok_iff, exists_bucketBounds_iff]
      constructor
      · rintro ⟨time, htime, hbounds⟩
        rw [← Timestamp.microseconds_inZone htime]
        exact ⟨⟨time, htime⟩, hbounds⟩
      · rintro ⟨⟨time, htime⟩, hbounds⟩
        rw [← Timestamp.microseconds_inZone htime] at hbounds
        exact ⟨time, htime, hbounds⟩
  | relative amount valueUnit =>
      rw [boundInstants]
      by_cases hcounted : valueUnit.normalize = .day ∧ amount ≤ relation.latestDay
      · obtain ⟨bounds, hbounds⟩ :=
          Option.isSome_iff_exists.1 (relativeDayBounds?_isSome_iff.2 hcounted.2)
        rw [if_pos hcounted, operandBounds, if_pos hcounted.1, hbounds]
        exact iff_of_true (withinYears_writableBounds bounds)
          fun _ hnone => absurd hnone List.not_mem_nil
      · have hnone : (if valueUnit.normalize = .day then relativeDayBounds? relation amount
            else none) = none := by
          rw [ite_eq_right_iff]
          intro hunit
          rw [← Option.not_isSome_iff_eq_none, relativeDayBounds?_isSome_iff]
          exact fun hamount => hcounted ⟨hunit, hamount⟩
        have hfails : FailsOnly IsCalendar (compiler.relativeTime amount valueUnit >>= fun time =>
            bucketBounds relation unit time) :=
          (failsOnly_relativeTime amount valueUnit).bind fun _ =>
            failsOnly_bucketBounds relation unit _
        rw [if_neg hcounted, operandBounds, hnone, withinYears_iff_exists hfails,
          List.forall_mem_append, ← exists_relativeTime_iff, exists_bind_eq_ok_iff]
        simp only [exists_bucketBounds_iff]
        constructor
        · rintro ⟨time, htime, hbounds⟩
          rw [← microseconds_of_relativeTime htime]
          exact ⟨⟨time, htime⟩, hbounds⟩
        · rintro ⟨⟨time, htime⟩, hbounds⟩
          rw [← microseconds_of_relativeTime htime] at hbounds
          exact ⟨time, htime, hbounds⟩

theorem withinYears_operandText_iff {operand : Operand} :
    WithinYears (compiler.operandText operand) ↔
      ∀ instant ∈ compiler.textInstants operand, InYears instant := by
  cases operand with
  | literal value typeInfo =>
      exact iff_of_true (withinYears_ofWritten _) fun _ hnone => absurd hnone List.not_mem_nil
  | absolute timestamp unit =>
      have hfails : FailsOnly IsCalendar (compiler.operandText (.absolute timestamp unit)) :=
        (failsOnly_ofCalendar _).bind fun _ => (failsOnly_ofCalendar _).bind fun _ => .ok _
      rw [withinYears_iff_exists hfails, operandText, textInstants, List.forall_mem_append,
        ← Timestamp.exists_inZone_iff, exists_bind_eq_ok_iff]
      simp only [ofCalendar_eq_ok_iff, List.forall_mem_singleton, exists_bind_eq_ok_iff]
      constructor
      · rintro ⟨time, htime, start, hstart, _⟩
        rw [← Timestamp.microseconds_inZone htime]
        exact ⟨⟨time, htime⟩, WallTime.exists_truncate_iff.1 ⟨start, hstart⟩⟩
      · rintro ⟨⟨time, htime⟩, hstart⟩
        rw [← Timestamp.microseconds_inZone htime] at hstart
        obtain ⟨start, hstart⟩ := WallTime.exists_truncate_iff.2 hstart
        exact ⟨time, htime, start, hstart, _, rfl⟩
  | relative amount unit =>
      rw [textInstants, operandText]
      by_cases hcounted : unit.normalize = .day ∧ amount ≤ 0
      · rw [if_pos hcounted, if_pos hcounted]
        exact iff_of_true (withinYears_ofWritten _) fun _ hnone => absurd hnone List.not_mem_nil
      · have hfails : FailsOnly IsCalendar (do
            return (← compiler.relativeTime amount unit).date.requestText) :=
          (failsOnly_relativeTime amount unit).bind fun _ => .ok _
        rw [if_neg hcounted, if_neg hcounted, withinYears_iff_exists hfails,
          ← exists_relativeTime_iff, exists_bind_eq_ok_iff]
        constructor
        · rintro ⟨time, htime, _⟩
          exact ⟨time, htime⟩
        · rintro ⟨time, htime⟩
          exact ⟨time, htime, _, rfl⟩

/-! ## Errors of a query -/

/-- The instants by which the operands of a condition are computed.  Those of a condition
that is dropped are not. -/
def instants (compiler : Compiler) : Condition → List Int
  | .comparison operator (.bucketed _ unit) value =>
      operator.timeRelation?.elim [] fun relation => compiler.boundInstants relation unit value
  | .comparison _ (.plain _) value => compiler.textInstants value
  | .between (.bucketed _ unit) lower upper =>
      compiler.boundInstants .notBefore unit lower ++ compiler.boundInstants .notAfter unit upper
  | .between (.plain _) lower upper => compiler.textInstants lower ++ compiler.textInstants upper
  | .textMatch _ (.bucketed _ _) _ _ => []
  | .textMatch _ (.plain _) value _ => compiler.textInstants value
  | .segment _ => []

/-- Whether a query accounts for an error.  The compiler may refuse any query; but for other
errors an order has to refer to an aggregation that does not exist, or a moment of the filter
has to leave the years of the calendar. -/
def Accountable (compiler : Compiler) (query : Query) : CompileError → Prop
  | .multipleDateRanges _ => True
  | .negatedDateRange => True
  | .multipleSegments _ => True
  | .unresolved _ _ => True
  | .unexpandedSegment _ => True
  | .unnamedAggregation _ => True
  | .aggregationOutOfRange index count =>
      count = query.aggregations.length ∧
        (∃ order ∈ query.orders, order.target = .aggregation index) ∧
          (index < -(count : Int) ∨ count ≤ index)
  | .longNumber => False
  | .calendar _ => ∃ leaf ∈ query.leaves, ∃ instant ∈ compiler.instants leaf, ¬InYears instant

/-- Whether a query accounts for an error, or has a number that cannot be written. -/
def AccountableOrLong (compiler : Compiler) (query : Query) (error : CompileError) : Prop :=
  compiler.Accountable query error ∨ error = .longNumber ∧ query.HasLongNumber compiler.config

theorem accountable_unlessLong {isLong : Bool} {error : CompileError}
    (haccountable : compiler.Accountable query error)
    (hlong : isLong = true → query.HasLongNumber compiler.config) :
    compiler.AccountableOrLong query (CompileError.unlessLong isLong error) := by
  cases isLong with
  | true => exact .inr ⟨rfl, hlong rfl⟩
  | false => exact .inl haccountable

section Leaf

variable {leaf : Condition} (hleaf : leaf ∈ query.leaves)

include hleaf

/-- A computation that stays within the calendar if some instants of a leaf do accounts for
its failure. -/
theorem accountable_of_instants {α : Type} {result : Except CompileError α} {operand : Operand}
    {instants : List Int} (hkind : FailsOnly (IsOperandError operand) result)
    (hlong : operand.isLong = true → leaf.isLong = true)
    (hsubset : instants ⊆ compiler.instants leaf)
    (hinstants : (∀ instant ∈ instants, InYears instant) → WithinYears result) :
    FailsOnly (compiler.AccountableOrLong query) result := by
  intro error herror
  rcases hkind error herror with ⟨cause, rfl⟩ | ⟨rfl, hoperand⟩
  · have hleaves : ¬∀ instant ∈ instants, InYears instant :=
      fun h => nomatch hinstants h _ herror
    rw [not_forall₂] at hleaves
    obtain ⟨instant, hinstant, houtside⟩ := hleaves
    exact .inl ⟨leaf, hleaf, instant, hsubset hinstant, houtside⟩
  · exact .inr ⟨rfl, .condition hleaf (hlong hoperand)⟩

theorem accountable_operandText {operand : Operand}
    (hlong : operand.isLong = true → leaf.isLong = true)
    (hsubset : compiler.textInstants operand ⊆ compiler.instants leaf) :
    FailsOnly (compiler.AccountableOrLong query) (compiler.operandText operand) :=
  accountable_of_instants hleaf (failsOnly_operandText operand) hlong hsubset
    withinYears_operandText_iff.2

theorem accountable_operandBounds {relation : TimeRelation} {unit : CalendarUnit}
    {operand : Operand} (hlong : operand.isLong = true → leaf.isLong = true)
    (hsubset : compiler.boundInstants relation unit operand ⊆ compiler.instants leaf) :
    FailsOnly (compiler.AccountableOrLong query) (compiler.operandBounds relation unit operand) :=
  accountable_of_instants hleaf (failsOnly_operandBounds relation unit operand) hlong hsubset
    withinYears_operandBounds_iff.2

theorem accountable_conditionRange :
    FailsOnly (compiler.AccountableOrLong query) (compiler.conditionRange leaf) := by
  refine FailsOnly.bind ?_ fun _ => .ok _
  cases leaf with
  | comparison operator field value =>
      have hlong : value.isLong = true → (Condition.comparison operator field value).isLong :=
        fun h => by rw [Condition.isLong, h, Bool.or_true]
      cases field with
      | plain field => exact .ok none
      | bucketed field unit =>
          cases hrelation : operator.timeRelation? with
          | none =>
              simp only [conditionBounds, hrelation]
              exact .ok none
          | some relation =>
              simp only [conditionBounds, hrelation]
              refine FailsOnly.bind (accountable_operandBounds hleaf hlong ?_) fun _ => .ok _
              rw [instants, hrelation]
              exact List.Subset.refl _
  | between field lower upper =>
      have hlower : lower.isLong = true → (Condition.between field lower upper).isLong :=
        fun h => by rw [Condition.isLong, h, Bool.or_true, Bool.true_or]
      have hupper : upper.isLong = true → (Condition.between field lower upper).isLong :=
        fun h => by rw [Condition.isLong, h, Bool.or_true]
      cases field with
      | plain field => exact .ok none
      | bucketed field unit =>
          refine FailsOnly.bind (accountable_operandBounds hleaf hlower ?_) fun _ =>
            FailsOnly.bind (accountable_operandBounds hleaf hupper ?_) fun _ => .ok _
          · exact List.subset_append_left _ _
          · exact List.subset_append_right _ _
  | textMatch operator field value caseSensitive => exact .ok none
  | segment id => exact .ok none

end Leaf

theorem accountable_combineRanges (operator : Junction) (ranges : List (Option DateRange)) :
    FailsOnly (compiler.AccountableOrLong query) (combineRanges operator ranges) := by
  unfold combineRanges
  split
  · unfold mergeRanges
    split
    · exact .ok _
    · exact .ok _
    · split
      · exact .ok _
      · exact .error (.inl trivial)
  · unfold onlyRange
    split
    · exact .ok _
    · exact .ok _
    · exact .error (.inl trivial)

theorem accountable_filterRange {filter : Filter}
    (h : ∀ leaf ∈ filter.leaves, leaf ∈ query.leaves) :
    FailsOnly (compiler.AccountableOrLong query) (compiler.filterRange filter) := by
  induction filter using Filter.treeInduction with
  | condition leaf => exact accountable_conditionRange (h leaf (List.mem_singleton_self leaf))
  | junction operator children ih =>
      rw [filterRange_junction]
      refine FailsOnly.bind (.mapM ?_) (accountable_combineRanges operator)
      intro child hchild
      exact ih child hchild fun leaf hleaf => h leaf (Filter.mem_leaves_junction hchild hleaf)
  | negation child _ =>
      rw [filterRange]
      split
      · exact .error (.inl trivial)
      · exact .ok none

theorem accountable_dateRange (compiler : Compiler) (query : Query) :
    FailsOnly (compiler.AccountableOrLong query) (compiler.dateRange query.filter) := by
  cases hfilter : query.filter with
  | none => exact .ok _
  | some filter =>
      rw [dateRange, filterRange_normalizeUnits]
      refine FailsOnly.bind (accountable_filterRange ?_) fun _ => .ok _
      intro leaf hleaf
      rw [Query.leaves, hfilter]
      exact hleaf

theorem accountable_segment (filter : Option Filter) :
    FailsOnly (compiler.AccountableOrLong query) (Filter.segment filter) := by
  unfold Filter.segment
  split
  · exact .ok none
  · exact .ok _
  · exact .error (.inl trivial)

theorem accountable_limitParameters (compiler : Compiler) (query : Query) :
    FailsOnly (compiler.AccountableOrLong query) (compiler.limitParameters query) := by
  rw [limitParameters]
  split
  · rename_i hlong
    exact .error (.inr ⟨rfl, hasLongNumber_of_limitWarnings hlong⟩)
  · exact .ok _

/-! ## Errors of names -/

section Named

variable {metadata : Metadata} (hmetadata : compiler.metadata = metadata.provider)

include hmetadata

theorem accountable_tableName :
    FailsOnly (compiler.AccountableOrLong query) (compiler.tableName query.sourceTable) := by
  rw [tableName, hmetadata]
  intro error herror
  rw [Metadata.tableName_provider_of_error herror]
  exact accountable_unlessLong trivial .table

theorem accountable_plainFieldName {field : PlainField}
    (hlong : field.isLong = true → query.HasLongNumber compiler.config) :
    FailsOnly (compiler.AccountableOrLong query) (compiler.plainFieldName field) := by
  cases field with
  | literal name => exact .ok name
  | id number =>
      rw [plainFieldName, hmetadata]
      intro error herror
      rw [Metadata.fieldName_provider_of_error herror]
      exact accountable_unlessLong trivial hlong

theorem accountable_dimension {field : Field}
    (hlong : field.base.isLong = true → query.HasLongNumber compiler.config) :
    FailsOnly (compiler.AccountableOrLong query) (compiler.dimension field) := by
  cases field with
  | plain field => exact accountable_plainFieldName hmetadata hlong
  | bucketed field unit => exact .ok _

theorem accountable_clauseTexts {leaf : Condition} (hleaf : leaf ∈ query.leaves)
    (hplain : leaf.onBucketedField = false) :
    FailsOnly (compiler.AccountableOrLong query) (compiler.clauseTexts leaf) := by
  have hname : ∀ {field : PlainField}, leaf.field? = some (.plain field) →
      FailsOnly (compiler.AccountableOrLong query) (compiler.plainFieldName field) :=
    fun hfield => accountable_plainFieldName hmetadata fun hlong =>
      .condition hleaf (Condition.isLong_of_field hfield hlong)
  cases leaf with
  | comparison operator field value =>
      cases field with
      | bucketed field unit => exact Bool.noConfusion hplain
      | plain field =>
          have hlong : value.isLong = true →
              (Condition.comparison operator (.plain field) value).isLong :=
            fun h => by rw [Condition.isLong, h, Bool.or_true]
          exact (hname rfl).bind fun _ =>
            (accountable_operandText hleaf hlong (List.Subset.refl _)).bind fun _ => .ok _
  | between field lower upper =>
      cases field with
      | bucketed field unit => exact Bool.noConfusion hplain
      | plain field =>
          have hlower : lower.isLong = true →
              (Condition.between (.plain field) lower upper).isLong :=
            fun h => by rw [Condition.isLong, h, Bool.or_true, Bool.true_or]
          have hupper : upper.isLong = true →
              (Condition.between (.plain field) lower upper).isLong :=
            fun h => by rw [Condition.isLong, h, Bool.or_true]
          exact (hname rfl).bind fun _ =>
            (accountable_operandText hleaf hlower (List.subset_append_left _ _)).bind fun _ =>
              (accountable_operandText hleaf hupper (List.subset_append_right _ _)).bind
                fun _ => .ok _
  | textMatch operator field value caseSensitive =>
      cases field with
      | bucketed field unit => exact Bool.noConfusion hplain
      | plain field =>
          have hlong : value.isLong = true →
              (Condition.textMatch operator (.plain field) value caseSensitive).isLong :=
            fun h => by rw [Condition.isLong, h, Bool.or_true]
          exact (accountable_operandText hleaf hlong (List.Subset.refl _)).bind fun _ =>
            (hname rfl).bind fun _ => .ok _
  | segment id => exact .error (accountable_unlessLong trivial fun hlong => .condition hleaf hlong)

theorem accountable_filterText {filter : Filter}
    (h : ∀ leaf ∈ filter.leaves, leaf ∈ query.leaves ∧ leaf.onBucketedField = false) :
    FailsOnly (compiler.AccountableOrLong query) (compiler.filterText filter) := by
  induction filter using Filter.treeInduction with
  | condition leaf =>
      obtain ⟨hleaf, hplain⟩ := h leaf (List.mem_singleton_self leaf)
      exact ((accountable_clauseTexts hmetadata hleaf hplain).bind fun _ => .ok _).bind
        fun _ => .ok _
  | junction operator children ih =>
      rw [filterText_junction]
      refine FailsOnly.bind (.mapM ?_) fun _ => .ok _
      intro child hchild
      exact ih child hchild fun leaf hleaf => h leaf (Filter.mem_leaves_junction hchild hleaf)
  | negation child ih =>
      rw [filterText_negation]
      exact (ih h).bind fun _ => .ok _

theorem accountable_requestFilter :
    FailsOnly (compiler.AccountableOrLong query) (compiler.requestFilter query.filter) := by
  refine FailsOnly.bind ?_ fun _ => .ok _
  have hleaves : ∀ leaf ∈ (query.filter.bind Filter.textHalf).elim [] Filter.leaves,
      leaf ∈ query.leaves ∧ leaf.onBucketedField = false := by
    intro leaf hleaf
    obtain ⟨hquery, hplain, _⟩ := Filter.mem_leaves_textHalf.1 hleaf
    exact ⟨hquery, hplain⟩
  cases hhalf : query.filter.bind Filter.textHalf with
  | none => exact .ok none
  | some half =>
      rw [hhalf] at hleaves
      exact accountable_filterText hmetadata hleaves

theorem accountable_sortTarget {order : Order} (horder : order ∈ query.orders) :
    FailsOnly (compiler.AccountableOrLong query) (compiler.sortTarget query order.target) := by
  have hlong : order.target.isLong = true → query.HasLongNumber compiler.config := .order horder
  cases htarget : order.target with
  | field field =>
      rw [htarget] at hlong
      cases field with
      | plain field => exact accountable_plainFieldName hmetadata hlong
      | bucketed field unit => exact .ok _
  | aggregation index =>
      rw [htarget] at hlong
      refine FailsOnly.bind ?_ fun aggregation => ?_
      · rw [Query.aggregationAt]
        by_cases hindex : query.HasIndex index
        · rw [Query.aggregationAt?_of_hasIndex hindex,
            List.getElem?_eq_getElem (Query.place_lt hindex)]
          exact .ok _
        · rw [Query.aggregationAt?_of_not_hasIndex hindex]
          rw [Query.HasIndex, not_and_or, Int.not_le, Int.not_lt] at hindex
          exact .error (accountable_unlessLong ⟨rfl, ⟨order, horder, htarget⟩, hindex⟩ hlong)
      · split
        · exact .ok _
        · exact .error (accountable_unlessLong trivial hlong)

theorem accountable_stageParameters (stage : Stage) :
    FailsOnly (compiler.AccountableOrLong query) (compiler.stageParameters query stage) := by
  cases stage with
  | sourceTable => exact (accountable_tableName hmetadata).bind fun _ => .ok _
  | aggregation => exact .ok _
  | breakout =>
      refine FailsOnly.bind (.mapM ?_) fun _ => .ok _
      intro field hfield
      exact accountable_dimension hmetadata (.breakout hfield)
  | dateRange => exact (accountable_dateRange compiler query).bind fun _ => .ok _
  | filters => exact (accountable_requestFilter hmetadata).bind fun _ => .ok _
  | segment => exact (accountable_segment query.filter).bind fun _ => .ok _
  | orders =>
      rw [stageParameters, orderParameters]
      split
      · exact .ok []
      · refine FailsOnly.bind (.mapM ?_) fun _ => .ok _
        intro order horder
        exact (accountable_sortTarget hmetadata horder).bind fun _ => .ok _
  | limit => exact accountable_limitParameters compiler query

theorem accountable_compile :
    FailsOnly (compiler.AccountableOrLong query) (compiler.compile query) :=
  .foldlM Stage.all
    (fun _ stage => (accountable_stageParameters hmetadata stage).bind fun _ => .ok _) _

theorem accountable_compileReported :
    FailsOnly (compiler.AccountableOrLong query) (compiler.compileReported query) := by
  intro error herror
  rcases bind_eq_error_iff.1 herror with hcompile | ⟨parameters, hcompile, hreport⟩
  · exact accountable_compile hmetadata error hcompile
  · exact .inr (hasLongNumber_of_report hcompile hreport)

end Named

/-! ## Compilations that succeed -/

theorem inYears_of_conditionRange {leaf : Condition} (hdate : leaf.isDateRange = true)
    {range : Option DateRange} (h : compiler.conditionRange leaf = .ok range) :
    ∀ instant ∈ compiler.instants leaf, InYears instant := by
  obtain ⟨bounds, hbounds, _⟩ := bind_eq_ok_iff.1 h
  cases leaf with
  | comparison operator field value =>
      cases field with
      | plain field => cases hdate
      | bucketed field unit =>
          have hrelation : operator.timeRelation?.isSome := hdate
          obtain ⟨relation, hrelation⟩ := Option.isSome_iff_exists.1 hrelation
          simp only [conditionBounds, hrelation] at hbounds
          obtain ⟨found, hfound, _⟩ := bind_eq_ok_iff.1 hbounds
          rw [instants, hrelation]
          exact withinYears_operandBounds_iff.1 (hfound ▸ .ok found)
  | between field lower upper =>
      cases field with
      | plain field => cases hdate
      | bucketed field unit =>
          obtain ⟨first, hfirst, hrest⟩ := bind_eq_ok_iff.1 hbounds
          obtain ⟨last, hlast, _⟩ := bind_eq_ok_iff.1 hrest
          rw [instants, List.forall_mem_append]
          exact ⟨withinYears_operandBounds_iff.1 (hfirst ▸ .ok first),
            withinYears_operandBounds_iff.1 (hlast ▸ .ok last)⟩
  | textMatch operator field value caseSensitive => simp [Condition.isDateRange] at hdate
  | segment id => cases hdate

theorem inYears_of_clauseTexts {leaf : Condition} (hplain : leaf.onBucketedField = false)
    {clauses : List String} (h : compiler.clauseTexts leaf = .ok clauses) :
    ∀ instant ∈ compiler.instants leaf, InYears instant := by
  rw [clauseTexts_eq_ok_iff] at h
  cases leaf with
  | comparison operator field value =>
      cases field with
      | bucketed field unit => exact Bool.noConfusion hplain
      | plain field =>
          obtain ⟨_, text, _, htext, _⟩ := h
          exact withinYears_operandText_iff.1 (htext ▸ .ok text)
  | between field lower upper =>
      cases field with
      | bucketed field unit => exact Bool.noConfusion hplain
      | plain field =>
          obtain ⟨_, first, last, _, hfirst, hlast, _⟩ := h
          rw [instants, List.forall_mem_append]
          exact ⟨withinYears_operandText_iff.1 (hfirst ▸ .ok first),
            withinYears_operandText_iff.1 (hlast ▸ .ok last)⟩
  | textMatch operator field value caseSensitive =>
      cases field with
      | bucketed field unit => exact Bool.noConfusion hplain
      | plain field =>
          obtain ⟨_, text, _, htext, _⟩ := h
          exact withinYears_operandText_iff.1 (htext ▸ .ok text)
  | segment id => exact h.elim

theorem instants_of_isDropped {leaf : Condition} (h : leaf.isDropped = true) :
    compiler.instants leaf = [] := by
  cases leaf with
  | comparison operator field value =>
      cases field with
      | plain field => exact nomatch h
      | bucketed field unit => cases operator <;> first | rfl | exact nomatch h
  | between field lower upper =>
      cases field with
      | plain field => exact nomatch h
      | bucketed field unit => exact nomatch h
  | textMatch operator field value caseSensitive =>
      cases field with
      | plain field => exact nomatch h
      | bucketed field unit => rfl
  | segment id => exact nomatch h

/-- If a query compiles, none of the instants by which it is compiled leaves the years of
the calendar. -/
theorem inYears_of_compile {parameters : Parameters}
    (h : compiler.compile query = .ok parameters) {leaf : Condition}
    (hleaf : leaf ∈ query.leaves) : ∀ instant ∈ compiler.instants leaf, InYears instant := by
  obtain ⟨range, hrange, _⟩ := lookup_bounds h
  obtain ⟨text, htext, _⟩ := lookup_filters h
  cases hbucketed : leaf.onBucketedField with
  | true =>
      cases hdate : leaf.isDateRange with
      | true =>
          rw [Query.leaves] at hleaf
          cases hfilter : query.filter with
          | none =>
              rw [hfilter] at hleaf
              exact absurd hleaf List.not_mem_nil
          | some filter =>
              rw [hfilter] at hleaf hrange
              obtain ⟨found, hfound, _⟩ := bind_eq_ok_iff.1 hrange
              obtain ⟨bounds, hbounds⟩ := exists_conditionRange_of_filterRange hfound hleaf hdate
              rw [conditionRange_normalizeUnits] at hbounds
              exact inYears_of_conditionRange hdate hbounds
      | false =>
          have hdropped : leaf.isDropped = true := by
            rw [Condition.isDropped, hbucketed, hdate]
            rfl
          rw [instants_of_isDropped hdropped]
          exact fun _ hnone => absurd hnone List.not_mem_nil
  | false =>
      cases hsegment : leaf.isBuiltinSegment with
      | true =>
          obtain ⟨name, rfl⟩ := Condition.exists_name_of_isBuiltinSegment hsegment
          exact fun _ hnone => absurd hnone List.not_mem_nil
      | false =>
          have hhalf : leaf ∈ (query.filter.bind Filter.textHalf).elim [] Filter.leaves :=
            Filter.mem_leaves_textHalf.2 ⟨hleaf, hbucketed, hsegment⟩
          obtain ⟨clauses, hclauses⟩ := exists_clauses_of_requestFilter htext leaf hhalf
          exact inYears_of_clauseTexts hbucketed hclauses

end Compiler

end AnalyticsQuery
