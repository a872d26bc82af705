import AnalyticsQuery.Proofs.Compile.Orders
import AnalyticsQuery.Proofs.Compile.Union
import AnalyticsQuery.Proofs.DateRange.Operand

/-!
# Numbers that are too long to be written

Numbers may have any length, but their texts may not.  A request names tables, fields and
segments by numbers, counts days and sends limits, and none of these can be written if it
has too many digits.
-/

namespace AnalyticsQuery

open Calendar (Bounds TimeRelation)
open Fallible

/-! ## Where the numbers stand -/

/-- Whether a number of an operand is too long to be written.  A strict comparison may count
one day more than the operand says. -/
def Operand.isLong : Operand → Bool
  | literal value _ => value.hasLongNumber
  | relative amount _ => Numeral.isLong amount || Numeral.isLong (amount - 1)
  | absolute _ _ => false

/-- Whether a number of a condition is too long to be written. -/
def Condition.isLong : Condition → Bool
  | comparison _ field value => field.base.isLong || value.isLong
  | between field lower upper => field.base.isLong || lower.isLong || upper.isLong
  | textMatch _ field value _ => field.base.isLong || value.isLong
  | segment id => id.isLong

/-- Some number of a query, or the limit that is configured, is too long to be written. -/
inductive Query.HasLongNumber (config : Config) (query : Query) : Prop
  | table (h : query.sourceTable.isLong = true)
  | breakout {field : Field} (hfield : field ∈ query.breakout) (h : field.base.isLong = true)
  | order {order : Order} (horder : order ∈ query.orders) (h : order.target.isLong = true)
  | condition {leaf : Condition} (hleaf : leaf ∈ query.leaves) (h : leaf.isLong = true)
  | limit {limit : Int} (hlimit : query.limit = some limit) (h : Numeral.isLong limit = true)
  | maximum (h : Numeral.isLong config.maxResults = true)

theorem Numeral.isLong_of_natAbs_le {value other : Int} (h : value.natAbs ≤ other.natAbs)
    (hlong : isLong value = true) : isLong other = true := by
  rw [isLong, decide_eq_true_iff, ← Nat.not_le, digits,
    Nat.length_toDigits_le_iff (by decide) (by decide), Nat.not_lt] at hlong ⊢
  exact hlong.trans h

theorem Condition.isLong_of_field {leaf : Condition} {field : Field}
    (hfield : leaf.field? = some field) (h : field.base.isLong = true) : leaf.isLong = true := by
  cases leaf with
  | comparison operator target value =>
      obtain rfl := Option.some.inj hfield
      rw [isLong, h, Bool.true_or]
  | between target lower upper =>
      obtain rfl := Option.some.inj hfield
      rw [isLong, h, Bool.true_or, Bool.true_or]
  | textMatch operator target value caseSensitive =>
      obtain rfl := Option.some.inj hfield
      rw [isLong, h, Bool.true_or]
  | segment id => cases hfield

/-- A warning about a dropped condition shows its field. -/
theorem Condition.isLong_of_warning {leaf : Condition}
    (h : (Warning.dropped leaf.normalizeUnits).isLong = true) : leaf.isLong = true := by
  rw [Warning.isLong, Option.any_eq_true] at h
  obtain ⟨field, hfield, hlong⟩ := h
  obtain ⟨original, horiginal, hbase⟩ : ∃ original,
      leaf.field? = some original ∧ original.base = field.base := by
    cases leaf with
    | comparison operator target value =>
        obtain rfl := Option.some.inj hfield
        exact ⟨target, rfl, by cases target <;> rfl⟩
    | between target lower upper =>
        obtain rfl := Option.some.inj hfield
        exact ⟨target, rfl, by cases target <;> rfl⟩
    | textMatch operator target value caseSensitive =>
        obtain rfl := Option.some.inj hfield
        exact ⟨target, rfl, by cases target <;> rfl⟩
    | segment id => cases hfield
  exact isLong_of_field horiginal (hbase ▸ hlong)

/-! ## Days counted back -/

/-- What cannot be written of days that are counted back is the number of days. -/
theorem isLong_of_writableBounds {relation : TimeRelation} {amount : Int}
    {bounds : Bounds DayBound} {error : CompileError}
    (hbounds : relativeDayBounds? relation amount = some bounds)
    (h : writableBounds bounds = .error error) :
    error = .longNumber ∧ (Numeral.isLong amount || Numeral.isLong (amount - 1)) = true := by
  obtain ⟨count, rfl, hcount⟩ := exists_count_of_relativeDayBounds? hbounds
  rw [writableBounds_daysAgo] at h
  by_cases hlong : Numeral.isLong count = true
  · rw [if_pos hlong] at h
    refine ⟨(Except.error.inj h).symm, ?_⟩
    rw [Bool.or_eq_true]
    exact hcount.imp (Numeral.isLong_of_natAbs_le · hlong) (Numeral.isLong_of_natAbs_le · hlong)
  · rw [if_neg hlong] at h
    cases h

/-! ## Limits and reports -/

namespace Compiler

variable {compiler : Compiler} {query : Query} {parameters : Parameters}

/-- A limit of which cannot be warned is too long, or the one that is configured is. -/
theorem hasLongNumber_of_limitWarnings
    (h : (compiler.limitWarnings query).any Warning.isLong = true) :
    query.HasLongNumber compiler.config := by
  rw [limitWarnings] at h
  cases hlimit : query.limit with
  | none => simp [hlimit] at h
  | some limit =>
      by_cases hexceeds : compiler.config.maxResults < limit
      · simp only [hlimit, if_pos hexceeds, List.any_cons, List.any_nil, Bool.or_false,
          Warning.isLong, Bool.or_eq_true] at h
        exact h.elim (.limit hlimit) .maximum
      · simp [hlimit, hexceeds] at h

/-- The only number that is sent is the limit. -/
theorem hasLongNumber_of_stageParameters {stage : Stage} {added : Parameters}
    (h : compiler.stageParameters query stage = .ok added)
    (hlong : added.any (fun entry => entry.2.isLong) = true) :
    query.HasLongNumber compiler.config := by
  have htext : ∀ key text, ¬(Parameters.ofText? key text).any
      (fun entry => entry.2.isLong) = true := by
    intro key text
    cases text <;> exact Bool.false_ne_true
  cases stage with
  | limit =>
      rw [eq_of_limitParameters h, List.any_cons, List.any_nil, Bool.or_false] at hlong
      cases hlimit : query.limit with
      | none =>
          rw [hlimit] at hlong
          exact .maximum hlong
      | some limit =>
          rw [hlimit] at hlong
          exact .limit hlimit hlong
  | sourceTable =>
      obtain ⟨name, _, hadded⟩ := bind_eq_ok_iff.1 h
      rw [← Except.ok.inj hadded] at hlong
      cases hlong
  | aggregation =>
      rw [← Except.ok.inj h, aggregationParameters] at hlong
      split at hlong <;> cases hlong
  | breakout =>
      obtain ⟨dimensions, _, hadded⟩ := bind_eq_ok_iff.1 h
      rw [← Except.ok.inj hadded] at hlong
      cases hlong
  | dateRange =>
      obtain ⟨range, _, hadded⟩ := bind_eq_ok_iff.1 h
      rw [← Except.ok.inj hadded] at hlong
      cases hlong
  | filters =>
      obtain ⟨text, _, hadded⟩ := bind_eq_ok_iff.1 h
      rw [← Except.ok.inj hadded] at hlong
      exact absurd hlong (htext _ text)
  | segment =>
      obtain ⟨name, _, hadded⟩ := bind_eq_ok_iff.1 h
      rw [← Except.ok.inj hadded] at hlong
      exact absurd hlong (htext _ name)
  | orders =>
      rw [stageParameters, orderParameters] at h
      split at h
      · rw [← Except.ok.inj h] at hlong
        cases hlong
      · obtain ⟨keys, _, hadded⟩ := bind_eq_ok_iff.1 h
        rw [← Except.ok.inj hadded] at hlong
        cases hlong

/-- A compilation that succeeds cannot be reported only if a number is too long. -/
theorem hasLongNumber_of_report {error : CompileError} (h : compiler.compile query = .ok parameters)
    (herror : compiler.report query parameters = .error error) :
    error = .longNumber ∧ query.HasLongNumber compiler.config := by
  rw [report, ite_eq_iff] at herror
  obtain ⟨hlong, herror⟩ | ⟨_, hok⟩ := herror
  swap
  · cases hok
  refine ⟨(Except.error.inj herror).symm, ?_⟩
  rw [Bool.or_eq_true, warnings, List.any_append, Bool.or_eq_true] at hlong
  rcases hlong with (hdropped | hlimit) | hsent
  · obtain ⟨range, hrange, _⟩ := lookup_bounds h
    rw [droppedConditions_eq hrange, List.map_map, List.any_map, List.any_eq_true] at hdropped
    obtain ⟨leaf, hleaf, hwarning⟩ := hdropped
    exact .condition (List.mem_filter.1 hleaf).1 (Condition.isLong_of_warning hwarning)
  · exact hasLongNumber_of_limitWarnings hlimit
  · choose given hgiven using exists_parameters_of_compile h
    have hstages : Stage.all.Nodup := by decide
    have hunion := runStages_eq_append hgiven hstages
    rw [← compile_eq_runStages, h] at hunion
    rw [Except.ok.inj hunion, List.any_append, List.any_flatMap, initialParameters] at hsent
    obtain ⟨stage, _, hstage⟩ := List.any_eq_true.1 hsent
    exact hasLongNumber_of_stageParameters (hgiven stage) hstage

end Compiler

end AnalyticsQuery
