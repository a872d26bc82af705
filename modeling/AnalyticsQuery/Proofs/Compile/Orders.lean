import AnalyticsQuery.Compile.Parameters
import AnalyticsQuery.Proofs.Fallible

/-!
# Orders by reported columns

Metrics, dimensions and sort keys are named in three stages that do not know of each other:
metrics without a name are skipped, bucketed fields are named by their units, and a sort key
may count the metrics from either end.  Here the columns of all three are given once, and a
sort key turns out to name a column that the other two report.
-/

namespace AnalyticsQuery

open Fallible

namespace Query

/-- Whether an index counts one of the aggregations, from the first or from the last. -/
def HasIndex (query : Query) (index : Int) : Prop :=
  -(query.aggregations.length : Int) ≤ index ∧ index < query.aggregations.length

/-- The place of the aggregation that an index counts. -/
def place (query : Query) (index : Int) : Nat := (index % query.aggregations.length).toNat

instance (query : Query) (index : Int) : Decidable (query.HasIndex index) := instDecidableAnd

variable {query : Query} {index : Int}

theorem aggregationAt?_of_hasIndex (h : query.HasIndex index) :
    query.aggregationAt? index = query.aggregations[query.place index]? := by
  obtain ⟨hfrom, hto⟩ := h
  rw [aggregationAt?, place]
  by_cases hnonneg : 0 ≤ index
  · rw [if_pos hnonneg, Int.emod_eq_of_lt hnonneg hto]
  · rw [if_neg hnonneg, if_pos hfrom, ← Int.add_emod_left, Int.emod_eq_of_lt] <;> omega

theorem place_lt (h : query.HasIndex index) : query.place index < query.aggregations.length := by
  have hpositive : (0 : Int) < query.aggregations.length := by
    have ⟨hfrom, hto⟩ := h
    omega
  have hplace := Int.emod_lt_of_pos index hpositive
  rw [place]
  omega

theorem aggregationAt?_of_not_hasIndex (h : ¬query.HasIndex index) :
    query.aggregationAt? index = none := by
  rw [HasIndex, not_and_or, Int.not_le, Int.not_lt] at h
  rw [aggregationAt?]
  rcases h with hbefore | hafter
  · rw [if_neg (by omega), if_neg (by omega)]
  · rw [if_pos (by omega), List.getElem?_eq_none_iff]
    omega

end Query

/-- The mark in front of a sort key. -/
def Direction.sign : Direction → String
  | ascending => ""
  | descending => "-"

/-- Whether a target is a number that is too long to be written. -/
def OrderTarget.isLong : OrderTarget → Bool
  | .aggregation index => Numeral.isLong index
  | .field (.plain base) => base.isLong
  | .field (.bucketed _ _) => false

namespace Compiler

variable {compiler : Compiler} {query : Query}

/-! ## Columns -/

/-- The column that a query reports for a target. -/
inductive HasColumn (compiler : Compiler) (query : Query) : OrderTarget → String → Prop
  | metric {index : Int} {name : String} (hindex : query.HasIndex index)
      (hmetric : query.aggregations[query.place index]? = some (.metric (.name name))) :
      HasColumn compiler query (.aggregation index) name
  | known {number : Int} {name : String}
      (hname : compiler.metadata.fieldName number = .ok name) :
      HasColumn compiler query (.field (.plain (.id number))) name
  | literal (name : String) : HasColumn compiler query (.field (.plain (.literal name))) name
  | unit (field : PlainField) (unit : Calendar.CalendarUnit) :
      HasColumn compiler query (.field (.bucketed field unit)) unit.dimension

/-- Why there is no column for a target. -/
inductive LacksColumn (compiler : Compiler) (query : Query) : OrderTarget → CompileError → Prop
  | outOfRange {index : Int} (hindex : ¬query.HasIndex index) :
      LacksColumn compiler query (.aggregation index)
        (CompileError.unlessLong (Numeral.isLong index)
          (.aggregationOutOfRange index query.aggregations.length))
  | unnamed {index : Int} (hindex : query.HasIndex index)
      (hmetric : ∀ name,
        query.aggregations[query.place index]? ≠ some (.metric (.name name))) :
      LacksColumn compiler query (.aggregation index)
        (CompileError.unlessLong (Numeral.isLong index) (.unnamedAggregation index))
  | unknown {number : Int} {error : CompileError}
      (hname : compiler.metadata.fieldName number = .error error) :
      LacksColumn compiler query (.field (.plain (.id number))) error

/-- Errors that say what is wrong with a target. -/
def ExplainsTarget : CompileError → Prop
  | .aggregationOutOfRange _ _ => True
  | .unnamedAggregation _ => True
  | .unresolved _ _ => True
  | _ => False

/-- Whether a target can be sorted by: an index must count a named metric, and the number of
a field must be known. -/
def Resolves (compiler : Compiler) (query : Query) : OrderTarget → Prop
  | .aggregation index => query.HasIndex index ∧
      ∃ name, query.aggregations[query.place index]? = some (.metric (.name name))
  | .field (.plain (.id number)) => ∃ name, compiler.metadata.fieldName number = .ok name
  | .field (.plain (.literal _)) => True
  | .field (.bucketed _ _) => True

theorem exists_column_iff {target : OrderTarget} :
    (∃ name, compiler.HasColumn query target name) ↔ compiler.Resolves query target := by
  constructor
  · rintro ⟨name, hname⟩
    cases hname with
    | metric hindex hmetric => exact ⟨hindex, name, hmetric⟩
    | known hname => exact ⟨name, hname⟩
    | literal name => trivial
    | unit field unit => trivial
  · intro h
    rcases target with ((number | name) | ⟨field, unit⟩) | index
    · obtain ⟨name, hname⟩ := h
      exact ⟨name, .known hname⟩
    · exact ⟨name, .literal name⟩
    · exact ⟨unit.dimension, .unit field unit⟩
    · obtain ⟨hindex, name, hmetric⟩ := h
      exact ⟨name, .metric hindex hmetric⟩

/-- A target that has no column lacks it for a reason. -/
theorem exists_lacksColumn {target : OrderTarget} (h : ¬compiler.Resolves query target) :
    ∃ error, compiler.LacksColumn query target error := by
  rcases target with ((number | name) | ⟨field, unit⟩) | index
  · cases hname : compiler.metadata.fieldName number with
    | ok name => exact absurd ⟨name, hname⟩ h
    | error error => exact ⟨error, .unknown hname⟩
  · exact absurd trivial h
  · exact absurd trivial h
  · by_cases hindex : query.HasIndex index
    · exact ⟨_, .unnamed hindex fun name hmetric => h ⟨hindex, name, hmetric⟩⟩
    · exact ⟨_, .outOfRange hindex⟩

theorem explainsTarget_unlessLong_iff {isLong : Bool} {error : CompileError}
    (h : ExplainsTarget error) :
    ExplainsTarget (CompileError.unlessLong isLong error) ↔ isLong = false := by
  cases isLong with
  | true => exact iff_of_false id (Bool.noConfusion ·)
  | false => exact iff_of_true h rfl

/-- Where names come from dictionaries, a target that has no column is explained exactly if
its number can be written. -/
theorem explainsTarget_iff {metadata : Metadata} (hmetadata : compiler.metadata = metadata.provider)
    {target : OrderTarget} {error : CompileError} (h : compiler.LacksColumn query target error) :
    ExplainsTarget error ↔ target.isLong = false := by
  cases h with
  | outOfRange hindex => exact explainsTarget_unlessLong_iff trivial
  | unnamed hindex hmetric => exact explainsTarget_unlessLong_iff trivial
  | unknown hname =>
      rw [hmetadata] at hname
      rw [Metadata.fieldName_provider_of_error hname]
      exact explainsTarget_unlessLong_iff trivial

theorem name?_eq_none {aggregation : Aggregation}
    (h : ∀ name, aggregation ≠ .metric (.name name)) : aggregation.name? = none := by
  rcases aggregation with (_ | name) | _
  · rfl
  · exact absurd rfl (h name)
  · rfl

theorem sortTarget_of_hasColumn {target : OrderTarget} {name : String}
    (h : compiler.HasColumn query target name) : compiler.sortTarget query target = .ok name := by
  cases h with
  | metric hindex hmetric =>
      rw [sortTarget, Query.aggregationAt, Query.aggregationAt?_of_hasIndex hindex, hmetric]
      rfl
  | known hname => exact hname
  | literal name => rfl
  | unit field unit => rfl

theorem sortTarget_of_lacksColumn {target : OrderTarget} {error : CompileError}
    (h : compiler.LacksColumn query target error) :
    compiler.sortTarget query target = .error error := by
  cases h with
  | outOfRange hindex =>
      rw [sortTarget, Query.aggregationAt, Query.aggregationAt?_of_not_hasIndex hindex]
      rfl
  | unnamed hindex hmetric =>
      have hplace := List.getElem?_eq_getElem (Query.place_lt hindex)
      have hname := name?_eq_none fun name hmetricName =>
        hmetric name (hplace.trans (congrArg some hmetricName))
      simp only [sortTarget, Query.aggregationAt, Query.aggregationAt?_of_hasIndex hindex, hplace,
        bind, Except.bind, hname]
  | unknown hname => exact hname

theorem hasColumn_or_lacksColumn (compiler : Compiler) (query : Query) (target : OrderTarget) :
    (∃ name, compiler.HasColumn query target name) ∨
      ∃ error, compiler.LacksColumn query target error := by
  by_cases h : compiler.Resolves query target
  · exact .inl (exists_column_iff.2 h)
  · exact .inr (exists_lacksColumn h)

theorem sortTarget_eq_ok_iff {target : OrderTarget} {name : String} :
    compiler.sortTarget query target = .ok name ↔ compiler.HasColumn query target name := by
  refine ⟨fun h => ?_, sortTarget_of_hasColumn⟩
  rcases compiler.hasColumn_or_lacksColumn query target with ⟨found, hfound⟩ | ⟨error, herror⟩
  · obtain rfl := Except.ok.inj (h.symm.trans (sortTarget_of_hasColumn hfound))
    exact hfound
  · exact nomatch h.symm.trans (sortTarget_of_lacksColumn herror)

theorem sortTarget_eq_error_iff {target : OrderTarget} {error : CompileError} :
    compiler.sortTarget query target = .error error ↔ compiler.LacksColumn query target error := by
  refine ⟨fun h => ?_, sortTarget_of_lacksColumn⟩
  rcases compiler.hasColumn_or_lacksColumn query target with ⟨name, hname⟩ | ⟨found, hfound⟩
  · exact nomatch h.symm.trans (sortTarget_of_hasColumn hname)
  · obtain rfl := Except.error.inj (h.symm.trans (sortTarget_of_lacksColumn hfound))
    exact hfound

/-- A field is reported under its dimension. -/
theorem dimension_eq_ok_iff (query : Query) {field : Field} {name : String} :
    compiler.dimension field = .ok name ↔ compiler.HasColumn query (.field field) name := by
  rw [← sortTarget_eq_ok_iff, sortTarget]

/-! ## The metrics and the dimensions -/

theorem mem_metrics {index : Int} {name : String}
    (h : compiler.HasColumn query (.aggregation index) name) :
    aggregationParameters query =
        [(.metrics, .text (",".intercalate (query.aggregations.filterMap Aggregation.name?)))] ∧
      name ∈ query.aggregations.filterMap Aggregation.name? := by
  cases h with
  | metric hindex hmetric =>
      have hmem : .metric (.name name) ∈ query.aggregations := List.mem_of_getElem? hmetric
      have hsome : ¬query.aggregations.isEmpty = true := fun hempty =>
        List.ne_nil_of_mem hmem (List.isEmpty_iff.1 hempty)
      exact ⟨if_neg hsome, List.mem_filterMap.2 ⟨_, hmem, rfl⟩⟩

/-- The dimensions are the columns of the fields, place by place. -/
theorem exists_dimensions {added : Parameters} (h : compiler.breakoutParameters query = .ok added) :
    ∃ names, added = [(.dimensions, .text (",".intercalate names))] ∧
      names.length = query.breakout.length ∧
      ∀ (position : Nat) (field : Field) (name : String),
        query.breakout[position]? = some field →
          compiler.HasColumn query (.field field) name → names[position]? = some name := by
  obtain ⟨names, hnames, hadded⟩ := bind_eq_ok_iff.1 h
  rw [mapM_eq_ok_iff] at hnames
  refine ⟨names, (Except.ok.inj hadded).symm, hnames.length_eq.symm, ?_⟩
  intro position field name hfield hname
  obtain ⟨hlength, hget⟩ := List.getElem?_eq_some_iff.1 hfield
  have hdimension := hnames.get hlength (hnames.length_eq ▸ hlength)
  rw [List.get_eq_getElem, List.get_eq_getElem, hget,
    (dimension_eq_ok_iff query).2 hname] at hdimension
  rw [List.getElem?_eq_getElem (hnames.length_eq ▸ hlength), Except.ok.inj hdimension]

/-! ## The sort keys -/

theorem sortKey_eq (order : Order) :
    compiler.sortKey query order =
      (compiler.sortTarget query order.target).map (order.direction.sign ++ ·) := by
  rw [sortKey]
  cases compiler.sortTarget query order.target with
  | error error => rfl
  | ok name =>
      cases order.direction with
      | ascending => exact congrArg Except.ok String.empty_append.symm
      | descending => rfl

theorem sortKey_eq_ok_iff {order : Order} {key : String} :
    compiler.sortKey query order = .ok key ↔
      ∃ name, compiler.HasColumn query order.target name ∧ key = order.direction.sign ++ name := by
  simp only [sortKey_eq, ← sortTarget_eq_ok_iff]
  cases compiler.sortTarget query order.target <;> simp [Except.map, eq_comm]

theorem sortKey_eq_error_iff {order : Order} {error : CompileError} :
    compiler.sortKey query order = .error error ↔
      compiler.LacksColumn query order.target error := by
  rw [sortKey_eq, ← sortTarget_eq_error_iff]
  cases compiler.sortTarget query order.target <;> simp [Except.map]

theorem exists_sortKey_iff {order : Order} :
    (∃ key, compiler.sortKey query order = .ok key) ↔ compiler.Resolves query order.target := by
  simp only [sortKey_eq_ok_iff, ← exists_column_iff]
  constructor
  · rintro ⟨_, name, hname, _⟩
    exact ⟨name, hname⟩
  · rintro ⟨name, hname⟩
    exact ⟨_, name, hname, rfl⟩

/-- Sort keys are written from columns, each with the sign of its direction. -/
theorem exists_columns_of_keys {orders : List Order} {keys : List String}
    (h : orders.mapM (compiler.sortKey query) = .ok keys) :
    ∃ names, List.Forall₂ (fun order => compiler.HasColumn query order.target) orders names ∧
      keys = List.zipWith (fun order name => order.direction.sign ++ name) orders names := by
  rw [mapM_eq_ok_iff] at h
  induction h with
  | nil => exact ⟨[], .nil, rfl⟩
  | cons hkey _ ih =>
      obtain ⟨name, hname, rfl⟩ := sortKey_eq_ok_iff.1 hkey
      obtain ⟨names, hnames, rfl⟩ := ih
      exact ⟨name :: names, .cons hname hnames, rfl⟩

/-! ## The stages together -/

theorem orderParameters_eq (compiler : Compiler) (query : Query) :
    compiler.orderParameters query =
      (query.orders.mapM (compiler.sortKey query) >>= fun keys =>
        .ok (if query.orders = [] then [] else [(.sort, .text (",".intercalate keys))])) := by
  rw [orderParameters]
  cases query.orders <;> rfl

theorem exists_orderParameters_iff :
    (∃ added, compiler.orderParameters query = .ok added) ↔
      ∀ order ∈ query.orders, compiler.Resolves query order.target := by
  rw [orderParameters_eq, exists_bind_eq_ok_iff]
  constructor
  · rintro ⟨keys, hkeys, _⟩ order horder
    exact exists_sortKey_iff.1 (exists_ok_of_mem hkeys horder)
  · intro h
    obtain ⟨keys, hkeys⟩ := exists_ok_mapM fun order horder => exists_sortKey_iff.2 (h order horder)
    exact ⟨keys, hkeys, _, rfl⟩

theorem orderParameters_eq_error_iff {error : CompileError} :
    compiler.orderParameters query = .error error ↔
      ∃ before order after, query.orders = before ++ order :: after ∧
        (∀ earlier ∈ before, compiler.Resolves query earlier.target) ∧
        compiler.LacksColumn query order.target error := by
  have hkeys : compiler.orderParameters query = .error error ↔
      query.orders.mapM (compiler.sortKey query) = .error error := by
    rw [orderParameters_eq, bind_eq_error_iff]
    exact or_iff_left nofun
  simp only [hkeys, mapM_eq_error_iff, exists_sortKey_iff, sortKey_eq_error_iff]

theorem exists_columns_of_orderParameters {added : Parameters} (hsome : query.orders ≠ [])
    (h : compiler.orderParameters query = .ok added) :
    ∃ names, List.Forall₂ (fun order => compiler.HasColumn query order.target) query.orders names ∧
      added = [(.sort, .text (",".intercalate
        (List.zipWith (fun order name => order.direction.sign ++ name) query.orders names)))] := by
  rw [orderParameters_eq, bind_eq_ok_iff] at h
  obtain ⟨keys, hkeys, hadded⟩ := h
  obtain ⟨names, hnames, rfl⟩ := exists_columns_of_keys hkeys
  exact ⟨names, hnames, (Except.ok.inj hadded).symm.trans (if_neg hsome)⟩

/-- How the sort keys of a query, its metrics and its dimensions belong together. -/
structure SortsReportedColumns (compiler : Compiler) (query : Query) : Prop where
  succeeds : (∃ added, compiler.orderParameters query = .ok added) ↔
    ∀ order ∈ query.orders, compiler.Resolves query order.target
  unordered : query.orders = [] → compiler.orderParameters query = .ok []
  /-- Each order gives a key, the name of its column with the sign of its direction. -/
  keys : ∀ added, query.orders ≠ [] → compiler.orderParameters query = .ok added →
    ∃ names, List.Forall₂ (fun order => compiler.HasColumn query order.target) query.orders names ∧
      added = [(.sort, .text (",".intercalate
        (List.zipWith (fun order name => order.direction.sign ++ name) query.orders names)))]
  /-- The columns of indices are among the metrics. -/
  metrics : ∀ index name, compiler.HasColumn query (.aggregation index) name →
    aggregationParameters query =
        [(.metrics, .text (",".intercalate (query.aggregations.filterMap Aggregation.name?)))] ∧
      name ∈ query.aggregations.filterMap Aggregation.name?
  /-- The columns of fields stand where these fields stand in the breakout. -/
  dimensions : ∀ added, compiler.breakoutParameters query = .ok added →
    ∃ names, added = [(.dimensions, .text (",".intercalate names))] ∧
      names.length = query.breakout.length ∧
      ∀ (position : Nat) (field : Field) (name : String),
        query.breakout[position]? = some field →
          compiler.HasColumn query (.field field) name → names[position]? = some name
  /-- The error is that of the first order whose target cannot be sorted by. -/
  fails : ∀ error, compiler.orderParameters query = .error error ↔
    ∃ before order after, query.orders = before ++ order :: after ∧
      (∀ earlier ∈ before, compiler.Resolves query earlier.target) ∧
      compiler.LacksColumn query order.target error
  /-- Where names come from dictionaries, the error says what is wrong with the target, exactly
  if the number in the target can be written. -/
  explains : ∀ metadata : Metadata, compiler.metadata = metadata.provider →
    ∀ target error, compiler.LacksColumn query target error →
      (ExplainsTarget error ↔ target.isLong = false)

/-- Rows are sorted by columns that are reported. -/
theorem sortsReportedColumns (compiler : Compiler) (query : Query) :
    compiler.SortsReportedColumns query where
  succeeds := exists_orderParameters_iff
  unordered := fun hnone => by rw [orderParameters, hnone]; rfl
  keys := fun _ => exists_columns_of_orderParameters
  metrics := fun _ _ => mem_metrics
  dimensions := fun _ => exists_dimensions
  fails := fun _ => orderParameters_eq_error_iff
  explains := fun _ hmetadata _ _ => explainsTarget_iff hmetadata

/-- An index of 4301 digits counts no aggregation, and its error does not say so: the index
cannot be written. -/
theorem not_explainsTarget_longIndex :
    let query : Query := {
      sourceTable := .number 1, aggregations := [.metric (.name "ga:hits")], breakout := []
      filter := none, orders := [⟨.ascending, .aggregation (Int.pow 10 4300)⟩], limit := none }
    ¬query.HasIndex (Int.pow 10 4300) ∧ bare.orderParameters query = .error .longNumber ∧
      ¬ExplainsTarget .longNumber :=
  ⟨by decide +kernel, by decide +kernel, id⟩

/-- The last metric and a day, with a metric that has no name and is not reported. -/
theorem sortsReportedColumns_last :
    let day : Field := .bucketed (.id 5) .day
    let query : Query := {
      sourceTable := .number 1
      aggregations := [.metric (.number 7), .metric (.name "ga:users"), .metric (.name "ga:hits")]
      breakout := [.plain (.literal "ga:country"), day]
      filter := none
      orders := [⟨.descending, .aggregation (-1)⟩, ⟨.ascending, .field day⟩]
      limit := none }
    bare.HasColumn query (.aggregation (-1)) "ga:hits" ∧
      bare.orderParameters query = .ok [(.sort, .text "-ga:hits,ga:date")] ∧
      aggregationParameters query = [(.metrics, .text "ga:users,ga:hits")] ∧
      bare.breakoutParameters query = .ok [(.dimensions, .text "ga:country,ga:date")] ∧
      ∃ names, List.Forall₂ (fun order => bare.HasColumn query order.target) query.orders names ∧
        "-ga:hits,ga:date" = ",".intercalate
          (List.zipWith (fun order name => order.direction.sign ++ name) query.orders names) := by
  intro day query
  have hindex : query.HasIndex (-1) := by decide
  have hlast : bare.HasColumn query (.aggregation (-1)) "ga:hits" := .metric hindex rfl
  have hsort : bare.orderParameters query = .ok [(.sort, .text "-ga:hits,ga:date")] := by
    decide +kernel
  obtain ⟨names, hnames, hkeys⟩ := (sortsReportedColumns bare query).keys _ nofun hsort
  obtain ⟨hmetrics, _⟩ := (sortsReportedColumns bare query).metrics _ _ hlast
  refine ⟨hlast, hsort, hmetrics.trans (by decide +kernel), by decide +kernel, names, hnames, ?_⟩
  simpa using hkeys

end Compiler

end AnalyticsQuery
