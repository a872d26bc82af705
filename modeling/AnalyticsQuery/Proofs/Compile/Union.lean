import AnalyticsQuery.Proofs.Compile.Accounting

/-!
# Compilation as a union

The stages of a compilation know nothing of each other, and no two of them set the same
key.  What is compiled is therefore their parameters side by side, whatever the order of
the stages; and the first stage that fails is all that is left of a compilation.
-/

namespace AnalyticsQuery

open Fallible

/-! ## Disjoint parameters -/

namespace Parameters

/-- Parameters under new keys are added behind the others. -/
theorem update_eq_append {parameters added : Parameters}
    (hdistinct : ((parameters ++ added).map Prod.fst).Nodup) :
    parameters.update added = parameters ++ added := by
  induction added generalizing parameters with
  | nil => exact (List.append_nil parameters).symm
  | cons entry added ih =>
      obtain ⟨key, value⟩ := entry
      have hshift : parameters ++ (key, value) :: added =
          (parameters ++ [(key, value)]) ++ added := by
        rw [List.append_assoc, List.singleton_append]
      have hnew : key ∉ parameters.map Prod.fst := by
        rw [List.map_append, List.map_cons, List.nodup_append] at hdistinct
        intro hmem
        exact hdistinct.2.2 key hmem key List.mem_cons_self rfl
      change update (storeEntry key value parameters) added = _
      rw [hshift] at hdistinct ⊢
      rw [storeEntry_of_not_mem hnew, ih hdistinct]

end Parameters

namespace Compiler

variable {compiler : Compiler} {query : Query} {given : Stage → Parameters}

/-- A compilation with the given stages only, in the given order. -/
def runStages (compiler : Compiler) (query : Query) (stages : List Stage) :
    Except CompileError Parameters :=
  stages.foldlM (compiler.afterStage query) compiler.initialParameters

theorem compile_eq_runStages (compiler : Compiler) (query : Query) :
    compiler.compile query = compiler.runStages query Stage.all := rfl

theorem stage?_of_mem_initialParameters {entry : ParameterKey × ParameterValue}
    (h : entry ∈ compiler.initialParameters) : entry.1.stage? = none := by
  rw [List.mem_singleton.1 h]
  rfl

section Given

variable (hgiven : ∀ stage, compiler.stageParameters query stage = .ok (given stage))

include hgiven

/-- No key is set twice, by two stages, by one, or by a stage and at the start. -/
theorem nodup_keys {stages : List Stage} (hstages : stages.Nodup) :
    ((compiler.initialParameters ++ stages.flatMap given).map Prod.fst).Nodup := by
  rw [List.map_append, List.map_flatMap, List.nodup_append]
  refine ⟨List.nodup_singleton _, ?_, ?_⟩
  · rw [List.nodup_flatMap]
    refine ⟨fun stage _ => (setBy_stageParameters (hgiven stage)).1, ?_⟩
    apply hstages.imp
    intro first second hne key hfirst hsecond
    obtain ⟨entry, hentry, rfl⟩ := List.mem_map.1 hfirst
    obtain ⟨other, hother, hkey⟩ := List.mem_map.1 hsecond
    have hstage := (setBy_stageParameters (hgiven first)).2 entry hentry
    have hotherStage := (setBy_stageParameters (hgiven second)).2 other hother
    rw [hkey, hstage] at hotherStage
    exact hne (Option.some.inj hotherStage)
  · rintro key hinitial _ hset rfl
    obtain ⟨entry, hentry, rfl⟩ := List.mem_map.1 hinitial
    obtain ⟨stage, _, hkey⟩ := List.mem_flatMap.1 hset
    obtain ⟨other, hother, hsame⟩ := List.mem_map.1 hkey
    have hstage := (setBy_stageParameters (hgiven stage)).2 other hother
    rw [hsame, stage?_of_mem_initialParameters hentry] at hstage
    exact nomatch hstage

/-- A run of stages adds their parameters, as long as none sets a key that is set already. -/
theorem foldlM_afterStage_eq_append {stages : List Stage} {parameters : Parameters}
    (hdistinct : ((parameters ++ stages.flatMap given).map Prod.fst).Nodup) :
    stages.foldlM (compiler.afterStage query) parameters =
      .ok (parameters ++ stages.flatMap given) := by
  induction stages generalizing parameters with
  | nil => exact congrArg Except.ok (List.append_nil parameters).symm
  | cons stage stages ih =>
      rw [List.flatMap_cons, ← List.append_assoc] at hdistinct ⊢
      have hfirst : ((parameters ++ given stage).map Prod.fst).Nodup := by
        rw [List.map_append] at hdistinct
        exact (List.nodup_append.1 hdistinct).1
      have hstage : compiler.afterStage query parameters stage =
          .ok (parameters ++ given stage) := by
        rw [afterStage, hgiven]
        exact congrArg Except.ok (Parameters.update_eq_append hfirst)
      rw [List.foldlM_cons, hstage]
      exact ih hdistinct

theorem runStages_eq_append {stages : List Stage} (hstages : stages.Nodup) :
    compiler.runStages query stages =
      .ok (compiler.initialParameters ++ stages.flatMap given) :=
  foldlM_afterStage_eq_append hgiven (nodup_keys hgiven hstages)

end Given

end Compiler

end AnalyticsQuery
