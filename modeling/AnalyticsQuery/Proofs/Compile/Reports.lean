import AnalyticsQuery.Compile.Parameters
import AnalyticsQuery.Proofs.DateRange.Condition
import AnalyticsQuery.Proofs.Fallible

/-!
# Reports of a compilation

The walk that finds the date range of a filter meets a condition either by itself or
while the filter under a negation is pruned.  Either way each condition is asked once,
in the order of the tree, so the reports are the conditions of the tree that are dropped.
-/

namespace AnalyticsQuery

namespace Compiler

/-! ## Reporting computations -/

/-- A computation gives a result and adds reports to those made before it. -/
def Reports {α : Type} (computation : Reporting α) (result : Except CompileError α)
    (added : List Condition) : Prop :=
  ∀ reports, computation.run reports = result.map fun value => (value, reports ++ added)

namespace Reports

variable {α β : Type}

theorem pure (value : α) : Reports (Pure.pure value) (.ok value) [] := by
  intro reports
  rw [StateT.run_pure]
  exact congrArg (fun log => Except.ok (value, log)) (List.append_nil reports).symm

theorem lift (result : Except CompileError α) : Reports (liftM result) result [] := by
  intro reports
  cases result with
  | error error => rfl
  | ok value =>
      exact congrArg (fun log => Except.ok (value, log)) (List.append_nil reports).symm

/-- Reports of two computations in a row are those of the first and then of the second. -/
theorem bind {first : Reporting α} {next : α → Reporting β} {result : Except CompileError α}
    {finish : α → Except CompileError β} {before after : List Condition}
    (hfirst : Reports first result before)
    (hnext : ∀ value, Reports (next value) (finish value) after) :
    Reports (first >>= next) (result >>= finish) (before ++ after) := by
  intro reports
  rw [StateT.run_bind, hfirst]
  cases result with
  | error error => rfl
  | ok value =>
      change (next value).run (reports ++ before) = _
      rw [hnext value, List.append_assoc]
      rfl

theorem bind_ok {first : Reporting α} {next : α → Reporting β} {value : α}
    {result : Except CompileError β} {before after : List Condition}
    (hfirst : Reports first (.ok value) before) (hnext : Reports (next value) result after) :
    Reports (first >>= next) result (before ++ after) := by
  intro reports
  rw [StateT.run_bind, hfirst]
  change (next value).run (reports ++ before) = _
  rw [hnext, List.append_assoc]

/-- A step without reports leaves the reports as they are. -/
theorem bind_silent {first : Reporting α} {next : α → Reporting β}
    {result : Except CompileError α} {finish : α → Except CompileError β}
    {added : List Condition} (hfirst : Reports first result added)
    (hnext : ∀ value, Reports (next value) (finish value) []) :
    Reports (first >>= next) (result >>= finish) added := by
  have h := hfirst.bind hnext
  rw [List.append_nil] at h
  exact h

theorem bind_ok_silent {first : Reporting α} {next : α → Reporting β} {value : α}
    {result : Except CompileError β} {added : List Condition}
    (hfirst : Reports first (.ok value) added) (hnext : Reports (next value) result []) :
    Reports (first >>= next) result added := by
  have h := hfirst.bind_ok hnext
  rw [List.append_nil] at h
  exact h

end Reports

/-! ## Pruning with reports -/

section Asking

variable {ask : Condition → Reporting Bool} {drop : Condition → Bool}
  {report : Condition → List Condition}

theorem reports_pruneEachAsking {children : List Filter}
    (hchildren : ∀ child ∈ children, Reports (child.pruneAsking ask) (.ok (child.prune drop))
      (child.leaves.flatMap report)) :
    Reports (Filter.pruneEachAsking ask children)
      (.ok (children.filterMap (Filter.prune drop)))
      (children.flatMap fun child => child.leaves.flatMap report) := by
  induction children with
  | nil => exact Reports.pure []
  | cons child children ih =>
      obtain ⟨hchild, hothers⟩ := List.forall_mem_cons.1 hchildren
      rw [Filter.pruneEachAsking, List.flatMap_cons, List.filterMap_cons]
      apply hchild.bind_ok
      cases child.prune drop with
      | none => exact ih hothers
      | some kept => exact (ih hothers).bind_ok_silent (Reports.pure _)

/-- Pruning by a question prunes by its answers, and reports once for each condition. -/
theorem reports_pruneAsking (hask : ∀ leaf, Reports (ask leaf) (.ok (drop leaf)) (report leaf))
    (filter : Filter) :
    Reports (filter.pruneAsking ask) (.ok (filter.prune drop))
      (filter.leaves.flatMap report) := by
  induction filter using Filter.treeInduction with
  | condition leaf =>
      rw [Filter.leaves_condition, List.flatMap_singleton, Filter.pruneAsking]
      exact (hask leaf).bind_ok_silent (Reports.pure _)
  | junction operator children ih =>
      rw [Filter.leaves_junction, List.flatMap_assoc, Filter.pruneAsking, Filter.prune_junction]
      apply (reports_pruneEachAsking ih).bind_ok_silent
      cases children.filterMap (Filter.prune drop) with
      | nil => exact Reports.pure none
      | cons first others => exact Reports.pure _
  | negation child ih =>
      rw [Filter.leaves_negation, Filter.pruneAsking, Filter.prune_negation]
      exact ih.bind_ok_silent (Reports.pure _)

end Asking

/-! ## The walk -/

variable {compiler : Compiler}

/-- The report of one condition. -/
def reportOf (leaf : Condition) : List Condition := if leaf.isDropped then [leaf] else []

theorem flatMap_reportOf (leaves : List Condition) :
    leaves.flatMap reportOf = leaves.filter Condition.isDropped := by
  induction leaves with
  | nil => rfl
  | cons leaf leaves ih =>
      rw [List.flatMap_cons, List.filter_cons, ih, reportOf]
      split <;> rfl

theorem reports_askDateRange (leaf : Condition) :
    Reports (askDateRange leaf) (.ok leaf.isDateRange) (reportOf leaf) := by
  intro reports
  unfold askDateRange reportOf
  by_cases hdropped : leaf.isDropped
  · rw [if_pos hdropped, if_pos hdropped]
    rfl
  · rw [if_neg hdropped, if_neg hdropped]
    exact congrArg (fun log => Except.ok (leaf.isDateRange, log)) (List.append_nil reports).symm

/-- What is asked under a negation is whether anything of the date range remains. -/
theorem prune_not_dateRange_eq_none_iff (filter : Filter) :
    filter.prune (fun leaf => !leaf.isDateRange) = none ↔
      filter.leaves.any Condition.isDateRange = false := by
  rw [Filter.prune_eq_none_iff, List.any_eq_false]
  simp

theorem reports_reportedRanges {children : List Filter}
    (hchildren : ∀ child ∈ children, Reports (compiler.reportedRange child)
      (compiler.filterRange child) (child.leaves.flatMap reportOf)) :
    Reports (compiler.reportedRanges children) (compiler.filterRanges children)
      (children.flatMap fun child => child.leaves.flatMap reportOf) := by
  induction children with
  | nil => exact Reports.pure []
  | cons child children ih =>
      obtain ⟨hchild, hothers⟩ := List.forall_mem_cons.1 hchildren
      rw [reportedRanges, filterRanges, List.flatMap_cons]
      apply hchild.bind
      intro range
      exact (ih hothers).bind_silent fun ranges => Reports.pure _

/-- The walk gives the range of the filter, and reports each condition that is dropped
once, in the order of the tree. -/
theorem reports_reportedRange (compiler : Compiler) (filter : Filter) :
    Reports (compiler.reportedRange filter) (compiler.filterRange filter)
      (filter.leaves.flatMap reportOf) := by
  induction filter using Filter.treeInduction with
  | condition leaf =>
      rw [Filter.leaves_condition, List.flatMap_singleton, reportedRange, filterRange]
      apply (reports_askDateRange leaf).bind_ok_silent
      cases hdate : leaf.isDateRange with
      | true => exact Reports.lift (compiler.conditionRange leaf)
      | false =>
          rw [conditionRange_of_not_dateRange hdate]
          exact Reports.pure none
  | junction operator children ih =>
      rw [Filter.leaves_junction, List.flatMap_assoc, reportedRange, filterRange]
      exact (reports_reportedRanges ih).bind_silent fun ranges =>
        Reports.lift (combineRanges operator ranges)
  | negation child _ =>
      rw [Filter.leaves_negation, reportedRange, filterRange]
      have hasked : ∀ leaf, Reports (do return !(← askDateRange leaf)) (.ok !leaf.isDateRange)
          (reportOf leaf) := fun leaf =>
        (reports_askDateRange leaf).bind_ok_silent (Reports.pure _)
      apply (reports_pruneAsking hasked child).bind_ok_silent
      cases hprune : child.prune fun leaf => !leaf.isDateRange with
      | none =>
          rw [(prune_not_dateRange_eq_none_iff child).1 hprune]
          exact Reports.pure none
      | some kept =>
          have hany : child.leaves.any Condition.isDateRange = true := by
            rw [← Bool.not_eq_false, ← prune_not_dateRange_eq_none_iff, hprune]
            exact Option.some_ne_none kept
          rw [hany]
          exact Reports.lift (.error .negatedDateRange)

/-- If a filter has a date range, its dropped conditions are reported with normalized
units, each once and in order. -/
theorem droppedConditions_eq {filter : Option Filter} {range : DateRange}
    (h : compiler.dateRange filter = .ok range) :
    compiler.droppedConditions filter =
      ((filter.elim [] Filter.leaves).filter Condition.isDropped).map
        Condition.normalizeUnits := by
  cases filter with
  | none => rfl
  | some filter =>
      obtain ⟨result, hresult, _⟩ := Fallible.bind_eq_ok_iff.1 h
      have hrun := reports_reportedRange compiler filter.normalizeUnits []
      rw [hresult, Filter.leaves_normalizeUnits, flatMap_reportOf, List.filter_map,
        List.nil_append] at hrun
      have hsame : Condition.isDropped ∘ Condition.normalizeUnits = Condition.isDropped := by
        funext leaf
        exact leaf.isDropped_normalizeUnits
      rw [droppedConditions, hrun, hsame]
      rfl

end Compiler

end AnalyticsQuery
