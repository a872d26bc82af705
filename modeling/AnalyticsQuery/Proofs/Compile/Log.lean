import AnalyticsQuery.Proofs.Compile.Reports
import AnalyticsQuery.Proofs.Compile.Stages
import AnalyticsQuery.Proofs.DateRange.Extraction

/-!
# The log of a compilation

Warnings are logged as they arise.  A compilation that fails has logged those of the stages
before the one that failed, and those of that one up to the failure.
-/

namespace AnalyticsQuery

open Fallible

namespace Compiler

mutual

/-- What the walk for the range of a filter reports until it ends or fails. -/
def reportedIn (compiler : Compiler) : Filter → List Condition
  | .condition leaf => reportOf leaf
  | .junction _ children => compiler.reportedInEach children
  | .negation child => child.leaves.flatMap reportOf

def reportedInEach (compiler : Compiler) : List Filter → List Condition
  | [] => []
  | child :: children =>
      compiler.reportedIn child ++
        if (compiler.filterRange child).isOk then compiler.reportedInEach children else []

end

/-- What one stage logs until it ends or fails. -/
def loggedBy (compiler : Compiler) (query : Query) : Stage → List Warning
  | .dateRange =>
      (query.filter.elim [] fun filter => compiler.reportedIn filter.normalizeUnits).map .dropped
  | .limit =>
      match query.limit with
      | none => []
      | some limit =>
          if compiler.config.maxResults < limit then
            [.limitExceeded limit compiler.config.maxResults]
          else []
  | _ => []

def loggedByEach (compiler : Compiler) (query : Query) : List Stage → List Warning
  | [] => []
  | stage :: stages =>
      compiler.loggedBy query stage ++
        if (compiler.stageParameters query stage).isOk then compiler.loggedByEach query stages
        else []

/-- The warnings of a compilation until it ends or fails, in the order in which they arise. -/
def log (compiler : Compiler) (query : Query) : List Warning :=
  compiler.loggedByEach query Stage.all

variable {compiler : Compiler} {query : Query}

/-- Filters that are compiled alike are logged alike, if the walk for the range reports the
same in them. -/
theorem log_of_filter {filter other : Filter}
    (hstages : ∀ stage, compiler.stageParameters { query with filter := some filter } stage =
      compiler.stageParameters { query with filter := some other } stage)
    (hreported : compiler.reportedIn filter.normalizeUnits =
      compiler.reportedIn other.normalizeUnits) :
    compiler.log { query with filter := some filter } =
      compiler.log { query with filter := some other } := by
  have hlogged : ∀ stage, compiler.loggedBy { query with filter := some filter } stage =
      compiler.loggedBy { query with filter := some other } stage := by
    intro stage
    cases stage with
    | dateRange => rw [loggedBy, loggedBy, Option.elim_some, Option.elim_some, hreported]
    | sourceTable => rfl
    | aggregation => rfl
    | breakout => rfl
    | filters => rfl
    | segment => rfl
    | orders => rfl
    | limit => rfl
  rw [log, log]
  induction Stage.all with
  | nil => rfl
  | cons stage stages ih => rw [loggedByEach, loggedByEach, hlogged, hstages, ih]

/-- A walk that does not fail reports all conditions that are dropped. -/
theorem reportedIn_of_filterRange {filter : Filter} {range : Option DateRange}
    (h : compiler.filterRange filter = .ok range) :
    compiler.reportedIn filter = filter.leaves.flatMap reportOf := by
  induction filter using Filter.treeInduction generalizing range with
  | condition leaf => rw [reportedIn, Filter.leaves_condition, List.flatMap_singleton]
  | junction operator children ih =>
      rw [filterRange_junction, bind_eq_ok_iff] at h
      obtain ⟨ranges, hranges, hcombined⟩ := h
      clear hcombined
      rw [reportedIn, Filter.leaves_junction, List.flatMap_assoc]
      rw [mapM_eq_ok_iff] at hranges
      -- The walk goes on after a child only if the child has not failed.
      induction hranges with
      | nil => rfl
      | cons hchild _ ihchildren =>
          obtain ⟨hfirst, hrest⟩ := List.forall_mem_cons.1 ih
          rw [reportedInEach, hchild, hfirst hchild, List.flatMap_cons, ← ihchildren hrest]
          rfl
  | negation child _ => rfl

theorem droppedConditions_of_filterRange {filter : Filter} {range : Option DateRange}
    (h : compiler.filterRange filter.normalizeUnits = .ok range) :
    compiler.droppedConditions (some filter) = compiler.reportedIn filter.normalizeUnits := by
  have hrun := reports_reportedRange compiler filter.normalizeUnits []
  rw [h, List.nil_append] at hrun
  rw [droppedConditions, hrun, reportedIn_of_filterRange h]
  rfl

/-- A compilation that succeeds logs its warnings. -/
theorem log_of_compile {parameters : Parameters} (h : compiler.compile query = .ok parameters) :
    compiler.log query = compiler.warnings query := by
  have hstages : ∀ stage, (compiler.stageParameters query stage).isOk = true := by
    intro stage
    obtain ⟨added, hadded⟩ := exists_parameters_of_compile h stage
    rw [hadded]
    rfl
  have hdropped : compiler.loggedBy query .dateRange =
      (compiler.droppedConditions query.filter).map .dropped := by
    obtain ⟨added, hadded⟩ := exists_parameters_of_compile h .dateRange
    obtain ⟨range, hrange, _⟩ := bind_eq_ok_iff.1 hadded
    rw [loggedBy]
    cases hfilter : query.filter with
    | none => rfl
    | some filter =>
        rw [hfilter] at hrange
        obtain ⟨found, hfound, _⟩ := bind_eq_ok_iff.1 hrange
        rw [droppedConditions_of_filterRange hfound, Option.elim_some]
  have hlogged : compiler.log query =
      (compiler.droppedConditions query.filter).map .dropped ++
        compiler.loggedBy query .limit := by
    simp only [log, Stage.all, loggedByEach, hstages, if_true, hdropped]
    simp only [loggedBy, List.nil_append, List.append_nil]
  exact hlogged

end Compiler

end AnalyticsQuery
