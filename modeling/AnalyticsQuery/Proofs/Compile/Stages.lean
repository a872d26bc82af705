import AnalyticsQuery.Compile.Parameters
import AnalyticsQuery.Proofs.Dictionary
import AnalyticsQuery.Proofs.Fallible

/-!
# Stages of a compilation

Every parameter belongs to one stage, which alone sets it.  What a compilation sends
under a key is therefore what the stage of that key gives for it, whatever the other
stages do.
-/

namespace AnalyticsQuery

open Fallible

namespace Parameters

/-- Of distinct keys that are added, each gets the value it is added with. -/
theorem lookup_update {added : Parameters} (hnodup : (added.map Prod.fst).Nodup)
    (parameters : Parameters) (key : ParameterKey) :
    (parameters.update added).lookup key = (added.lookup key).or (parameters.lookup key) := by
  induction added generalizing parameters with
  | nil => rfl
  | cons entry added ih =>
      obtain ⟨known, value⟩ := entry
      rw [List.map_cons, List.nodup_cons] at hnodup
      change (update (storeEntry known value parameters) added).lookup key = _
      rw [ih hnodup.2, lookup_storeEntry, lookup_cons_ite]
      by_cases hkey : key = known
      · have hnone : List.lookup key added = none := by
          apply lookup_eq_none_of_forall_ne
          intro entry hentry heq
          exact hnodup.1 (List.mem_map.2 ⟨entry, hentry, heq.trans hkey⟩)
        rw [if_pos hkey, if_pos hkey, hnone]
        rfl
      · rw [if_neg hkey, if_neg hkey]

theorem lookup_ofText? (key : ParameterKey) (text : Option String) :
    (ofText? key text).lookup key = text.map .text := by
  cases text with
  | none => rfl
  | some value =>
      change List.lookup key [(key, ParameterValue.text value)] = _
      rw [lookup_cons_ite, if_pos rfl]
      rfl

end Parameters

/-! ## Keys and their stages -/

/-- The stage that sets a parameter, if any does. -/
def ParameterKey.stage? : ParameterKey → Option Stage
  | includeEmptyRows => none
  | ids => some .sourceTable
  | metrics => some .aggregation
  | dimensions => some .breakout
  | startDate => some .dateRange
  | endDate => some .dateRange
  | filters => some .filters
  | segment => some .segment
  | sort => some .orders
  | maxResults => some .limit

namespace Parameters

/-- Parameters that all belong to one stage, none of them set twice. -/
def SetBy (added : Parameters) (stage : Stage) : Prop :=
  (added.map Prod.fst).Nodup ∧ ∀ entry ∈ added, entry.1.stage? = some stage

variable {key : ParameterKey} {stage : Stage}

theorem setBy_nil (stage : Stage) : SetBy [] stage :=
  ⟨List.nodup_nil, fun _ hentry => absurd hentry List.not_mem_nil⟩

theorem setBy_single (hkey : key.stage? = some stage) (value : ParameterValue) :
    SetBy [(key, value)] stage := by
  refine ⟨List.pairwise_singleton _ key, ?_⟩
  intro entry hentry
  rw [List.mem_singleton.1 hentry, hkey]

theorem setBy_ofText? (hkey : key.stage? = some stage) (text : Option String) :
    SetBy (ofText? key text) stage := by
  cases text with
  | none => exact setBy_nil stage
  | some value => exact setBy_single hkey (.text value)

end Parameters

namespace Compiler

variable {compiler : Compiler} {query : Query}

/-- The page size is that of the query or the configured one, unless it is too long to be
warned of. -/
theorem eq_of_limitParameters {added : Parameters}
    (h : compiler.limitParameters query = .ok added) :
    added = [(.maxResults, .int (query.limit.getD compiler.config.maxResults))] := by
  rw [limitParameters, ite_eq_iff] at h
  obtain ⟨_, herror⟩ | ⟨_, hadded⟩ := h
  · exact nomatch herror
  · exact (Except.ok.inj hadded).symm

/-- A stage sets parameters of its own, and none of them twice. -/
theorem setBy_stageParameters {stage : Stage} {added : Parameters}
    (h : compiler.stageParameters query stage = .ok added) : added.SetBy stage := by
  cases stage with
  | sourceTable =>
      obtain ⟨name, _, hadded⟩ := bind_eq_ok_iff.1 h
      rw [← Except.ok.inj hadded]
      exact Parameters.setBy_single rfl _
  | aggregation =>
      rw [← Except.ok.inj h, aggregationParameters]
      split
      · exact Parameters.setBy_nil _
      · exact Parameters.setBy_single rfl _
  | breakout =>
      obtain ⟨dimensions, _, hadded⟩ := bind_eq_ok_iff.1 h
      rw [← Except.ok.inj hadded]
      exact Parameters.setBy_single rfl _
  | dateRange =>
      obtain ⟨range, _, hadded⟩ := bind_eq_ok_iff.1 h
      rw [← Except.ok.inj hadded]
      have hnodup : [ParameterKey.startDate, ParameterKey.endDate].Nodup := by decide
      refine ⟨hnodup, ?_⟩
      intro entry hentry
      rcases List.mem_pair.1 hentry with rfl | rfl
      · rfl
      · rfl
  | filters =>
      obtain ⟨text, _, hadded⟩ := bind_eq_ok_iff.1 h
      rw [← Except.ok.inj hadded]
      exact Parameters.setBy_ofText? rfl text
  | segment =>
      obtain ⟨name, _, hadded⟩ := bind_eq_ok_iff.1 h
      rw [← Except.ok.inj hadded]
      exact Parameters.setBy_ofText? rfl name
  | orders =>
      change compiler.orderParameters query = .ok added at h
      unfold orderParameters at h
      split at h
      · rw [← Except.ok.inj h]
        exact Parameters.setBy_nil _
      · obtain ⟨keys, _, hadded⟩ := bind_eq_ok_iff.1 h
        rw [← Except.ok.inj hadded]
        exact Parameters.setBy_single rfl _
  | limit =>
      rw [eq_of_limitParameters h]
      exact Parameters.setBy_single rfl _

/-- The parameters after one more stage. -/
def afterStage (compiler : Compiler) (query : Query) (parameters : Parameters) (stage : Stage) :
    Except CompileError Parameters := do
  return Parameters.update parameters (← compiler.stageParameters query stage)

/-- A stage sets the keys it owns and leaves all others as they are. -/
theorem lookup_afterStage {parameters result : Parameters} {stage : Stage}
    (h : compiler.afterStage query parameters stage = .ok result) :
    ∃ added, compiler.stageParameters query stage = .ok added ∧
      ∀ key, result.lookup key = if key.stage? = some stage
        then (added.lookup key).or (parameters.lookup key) else parameters.lookup key := by
  obtain ⟨added, hadded, hresult⟩ := bind_eq_ok_iff.1 h
  obtain ⟨hnodup, howned⟩ := setBy_stageParameters hadded
  refine ⟨added, hadded, ?_⟩
  intro key
  rw [← Except.ok.inj hresult, Parameters.lookup_update hnodup]
  by_cases hkey : key.stage? = some stage
  · rw [if_pos hkey]
  · have hnone : List.lookup key added = none := by
      apply lookup_eq_none_of_forall_ne
      rintro entry hentry rfl
      exact hkey (howned entry hentry)
    rw [if_neg hkey, hnone, Option.none_or]

/-- What a run of distinct stages leaves under a key: what the stage of the key gives, if
that is one of them, and what was there before otherwise. -/
theorem lookup_foldlM_afterStage {stages : List Stage} (hnodup : stages.Nodup)
    {parameters result : Parameters}
    (h : stages.foldlM (compiler.afterStage query) parameters = .ok result)
    (key : ParameterKey) :
    ((∀ stage ∈ stages, key.stage? ≠ some stage) → result.lookup key = parameters.lookup key) ∧
    ∀ stage ∈ stages, key.stage? = some stage →
      ∃ added, compiler.stageParameters query stage = .ok added ∧
        result.lookup key = (added.lookup key).or (parameters.lookup key) := by
  induction stages generalizing parameters with
  | nil =>
      rw [← Except.ok.inj h]
      exact ⟨fun _ => rfl, fun stage hstage => absurd hstage List.not_mem_nil⟩
  | cons first stages ih =>
      rw [List.foldlM_cons, bind_eq_ok_iff] at h
      obtain ⟨next, hfirst, hrest⟩ := h
      obtain ⟨hnotin, hnodup⟩ := List.nodup_cons.1 hnodup
      obtain ⟨hother, howned⟩ := ih hnodup hrest
      obtain ⟨added, hadded, hlookup⟩ := lookup_afterStage hfirst
      refine ⟨?_, ?_⟩
      · intro hnone
        obtain ⟨hne, hnone⟩ := List.forall_mem_cons.1 hnone
        rw [hother hnone, hlookup, if_neg hne]
      · intro stage hstage hkey
        rcases List.mem_cons.1 hstage with rfl | hstage
        · refine ⟨added, hadded, ?_⟩
          have hnone : ∀ other ∈ stages, key.stage? ≠ some other := by
            intro other hmem hsame
            rw [hkey] at hsame
            exact hnotin (Option.some.inj hsame ▸ hmem)
          rw [hother hnone, hlookup, if_pos hkey]
        · obtain ⟨added, hadded, hresult⟩ := howned stage hstage hkey
          have hne : key.stage? ≠ some first := by
            intro hsame
            rw [hkey] at hsame
            exact hnotin (Option.some.inj hsame ▸ hstage)
          refine ⟨added, hadded, ?_⟩
          rw [hresult, hlookup, if_neg hne]

/-- Under each key a compilation sends what the stage of that key gives. -/
theorem lookup_compile {parameters : Parameters} (h : compiler.compile query = .ok parameters)
    (key : ParameterKey) {stage : Stage} (hkey : key.stage? = some stage) :
    ∃ added, compiler.stageParameters query stage = .ok added ∧
      parameters.lookup key = added.lookup key := by
  have hnodup : Stage.all.Nodup := by decide
  have hmem : stage ∈ Stage.all := by cases stage <;> decide
  obtain ⟨added, hadded, hlookup⟩ :=
    (lookup_foldlM_afterStage hnodup h key).2 stage hmem hkey
  have hinitial : compiler.initialParameters.lookup key = none := by
    rw [initialParameters, lookup_cons_ite, if_neg]
    · rfl
    · rintro rfl
      exact nomatch hkey
  rw [hinitial, Option.or_none] at hlookup
  exact ⟨added, hadded, hlookup⟩

/-- All stages of a compilation that succeeds do so. -/
theorem exists_parameters_of_compile {parameters : Parameters}
    (h : compiler.compile query = .ok parameters) (stage : Stage) :
    ∃ added, compiler.stageParameters query stage = .ok added := by
  have hkey : ∃ key : ParameterKey, key.stage? = some stage := by
    cases stage with
    | sourceTable => exact ⟨.ids, rfl⟩
    | aggregation => exact ⟨.metrics, rfl⟩
    | breakout => exact ⟨.dimensions, rfl⟩
    | dateRange => exact ⟨.startDate, rfl⟩
    | filters => exact ⟨.filters, rfl⟩
    | segment => exact ⟨.segment, rfl⟩
    | orders => exact ⟨.sort, rfl⟩
    | limit => exact ⟨.maxResults, rfl⟩
  obtain ⟨key, hkey⟩ := hkey
  obtain ⟨added, hadded, _⟩ := lookup_compile h key hkey
  exact ⟨added, hadded⟩

/-- Filters request the same text if their halves that are written are related, and related
filters have the same text. -/
theorem requestFilter_of_rel {S : Filter → Filter → Prop} {filter other : Filter}
    (htext : ∀ {half otherHalf : Filter}, S half otherHalf →
      compiler.filterText half = compiler.filterText otherHalf)
    (h : Option.Rel S filter.textHalf other.textHalf) :
    compiler.requestFilter (some filter) = compiler.requestFilter (some other) := by
  have hhalf : compiler.optionalFilterText filter.textHalf =
      compiler.optionalFilterText other.textHalf := by
    generalize filter.textHalf = half at h ⊢
    generalize other.textHalf = otherHalf at h ⊢
    cases h with
    | none => rfl
    | some hsame => exact htext hsame
  rw [requestFilter, requestFilter, Option.bind_some, Option.bind_some, hhalf]

/-- Only the date range, the text and the segment of a filter tell in the stages. -/
theorem stageParameters_of_filter {filter other : Option Filter}
    (hrange : compiler.dateRange filter = compiler.dateRange other)
    (htext : compiler.requestFilter filter = compiler.requestFilter other)
    (hsegment : Filter.segment filter = Filter.segment other) (stage : Stage) :
    compiler.stageParameters { query with filter := filter } stage =
      compiler.stageParameters { query with filter := other } stage := by
  cases stage with
  | dateRange => rw [stageParameters, stageParameters, dateParameters, dateParameters, hrange]
  | filters => rw [stageParameters, stageParameters, filterParameters, filterParameters, htext]
  | segment =>
      rw [stageParameters, stageParameters, segmentParameters, segmentParameters, hsegment]
  | sourceTable => rfl
  | aggregation => rfl
  | breakout => rfl
  | orders => rfl
  | limit => rfl

/-- Stages that give the same, errors included, are compiled to the same. -/
theorem compile_congr {other : Compiler} {otherQuery : Query}
    (hconfig : compiler.config = other.config)
    (hstages : ∀ stage, compiler.stageParameters query stage =
      other.stageParameters otherQuery stage) :
    compiler.compile query = other.compile otherQuery := by
  have hstep : compiler.afterStage query = other.afterStage otherQuery := by
    funext parameters stage
    rw [afterStage, afterStage, hstages]
  change Stage.all.foldlM (compiler.afterStage query) compiler.initialParameters =
    Stage.all.foldlM (other.afterStage otherQuery) other.initialParameters
  rw [hstep, initialParameters, initialParameters, hconfig]

/-- Queries for which every stage gives the same parameters are compiled alike. -/
theorem compile_of_stages {other : Query} {parameters : Parameters}
    (hstages : ∀ stage added, compiler.stageParameters query stage = .ok added →
      compiler.stageParameters other stage = .ok added)
    (h : compiler.compile query = .ok parameters) : compiler.compile other = .ok parameters := by
  suffices hrun : ∀ (stages : List Stage) (start : Parameters),
      stages.foldlM (compiler.afterStage query) start = .ok parameters →
        stages.foldlM (compiler.afterStage other) start = .ok parameters from
    hrun Stage.all compiler.initialParameters h
  intro stages
  induction stages with
  | nil => exact fun _ h => h
  | cons stage stages ih =>
      intro start h
      rw [List.foldlM_cons, bind_eq_ok_iff] at h ⊢
      obtain ⟨next, hstage, hrest⟩ := h
      obtain ⟨added, hadded, hnext⟩ := bind_eq_ok_iff.1 hstage
      exact ⟨next, bind_eq_ok_iff.2 ⟨added, hstages stage added hadded, hnext⟩, ih next hrest⟩

end Compiler

end AnalyticsQuery
