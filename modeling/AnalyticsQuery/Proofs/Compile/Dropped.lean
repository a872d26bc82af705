import AnalyticsQuery.Proofs.Compile.Stages
import AnalyticsQuery.Proofs.DateRange.Extraction

/-!
# Dropped conditions

A condition on a bucketed field that gives no bounds is dropped from a request.  It
changes no parameter: other such conditions may stand in its place, and it may be left
out altogether.
-/

namespace AnalyticsQuery

open Fallible

namespace Condition

/-- A condition, or a fixed one in the place of one that is dropped. -/
def blanked (leaf : Condition) : Condition :=
  if leaf.isDropped then
    .textMatch .contains (.bucketed (.id 0) .day) (.literal .null none) true
  else leaf

theorem blanked_of_not_dropped {leaf : Condition} (h : leaf.isDropped = false) :
    leaf.blanked = leaf := by
  rw [blanked, h]
  rfl

/-- A property that all dropped conditions share is kept. -/
theorem property_blanked {α : Type} (property : Condition → α) {value : α}
    (h : ∀ leaf, leaf.isDropped = true → property leaf = value) (leaf : Condition) :
    property leaf.blanked = property leaf := by
  by_cases hdropped : leaf.isDropped = true
  · rw [blanked, if_pos hdropped, h leaf hdropped]
    exact h _ rfl
  · rw [blanked_of_not_dropped (eq_false_of_ne_true hdropped)]

theorem onBucketedField_of_isDropped {leaf : Condition} (h : leaf.isDropped = true) :
    leaf.onBucketedField = true := (Bool.and_eq_true_iff.1 h).1

theorem isDateRange_of_isDropped {leaf : Condition} (h : leaf.isDropped = true) :
    leaf.isDateRange = false := (Bool.not_eq_true' leaf.isDateRange).mp (Bool.and_eq_true_iff.1 h).2

theorem isBuiltinSegment_of_isDropped {leaf : Condition} (h : leaf.isDropped = true) :
    leaf.isBuiltinSegment = false := by
  cases leaf with
  | segment id => exact nomatch h
  | comparison operator field value => rfl
  | between field lower upper => rfl
  | textMatch operator field value caseSensitive => rfl

/-- Name of a segment that has one. -/
def segmentName? : Condition → Option String
  | segment id => id.name?
  | _ => none

end Condition

namespace Filter

/-- Two filters are the same apart from which conditions stand where one is dropped. -/
def AgreesBesidesDropped (left right : Filter) : Prop :=
  left.mapConditions Condition.blanked = right.mapConditions Condition.blanked

theorem textHalf_blanked (filter : Filter) :
    (filter.mapConditions Condition.blanked).textHalf = filter.textHalf := by
  have hdrop : (fun leaf : Condition => leaf.onBucketedField || leaf.isBuiltinSegment) ∘
      Condition.blanked = fun leaf => leaf.onBucketedField || leaf.isBuiltinSegment := by
    funext leaf
    apply Condition.property_blanked fun leaf => leaf.onBucketedField || leaf.isBuiltinSegment
    intro leaf hdropped
    rw [Condition.onBucketedField_of_isDropped hdropped, Bool.true_or]
  rw [textHalf, prune_mapConditions, hdrop]
  cases hprune : prune (fun leaf => leaf.onBucketedField || leaf.isBuiltinSegment) filter with
  | none => rfl
  | some kept =>
      apply congrArg some
      apply mapConditions_eq_self
      intro leaf hleaf
      rw [leaves_of_prune hprune, List.mem_filter] at hleaf
      apply Condition.blanked_of_not_dropped
      by_contra hdropped
      have hbucketed := Condition.onBucketedField_of_isDropped (eq_true_of_ne_false hdropped)
      rw [hbucketed] at hleaf
      exact Bool.false_ne_true hleaf.2

/-- The built-in segments of a filter are the names of those among its leaves. -/
theorem builtinSegments_eq (filter : Filter) :
    filter.builtinSegments =
      (filter.leaves.filter Condition.isBuiltinSegment).filterMap Condition.segmentName? := by
  rw [builtinSegments, segmentIds]
  induction filter.leaves with
  | nil => rfl
  | cons leaf leaves ih =>
      cases leaf with
      | segment id =>
          rw [List.filterMap_cons, List.filter_cons, List.filter_cons, Condition.isBuiltinSegment]
          by_cases hbuiltin : id.isBuiltinSegment = true
          · rw [if_pos hbuiltin, if_pos hbuiltin, List.filterMap_cons, List.filterMap_cons, ih]
            rfl
          · rw [if_neg hbuiltin, if_neg hbuiltin, ih]
      | comparison operator field value => exact ih
      | between field lower upper => exact ih
      | textMatch operator field value caseSensitive => exact ih

/-- What remains holds conditions of the date range if the filter did. -/
theorem hasDateRange_prune {drop : Condition → Bool}
    (hdrop : ∀ leaf, drop leaf = true → leaf.isDateRange = false) (filter : Filter) :
    (prune drop filter).elim false hasDateRange = filter.hasDateRange := by
  have hleaves := leaves_prune drop filter
  have hany : (filter.leaves.filter fun leaf => !drop leaf).any Condition.isDateRange =
      filter.leaves.any Condition.isDateRange := by
    rw [List.any_filter]
    congr 1
    funext leaf
    cases hleaf : drop leaf with
    | true => rw [hdrop leaf hleaf]; rfl
    | false => rfl
  rw [hasDateRange, ← hany, ← hleaves]
  cases prune drop filter <;> rfl

end Filter

namespace Compiler

variable {compiler : Compiler} {query : Query} {parameters : Parameters}

/-! ## Other conditions in their place -/

theorem filterRange_mapConditions {f g : Condition → Condition}
    (hrange : ∀ leaf, compiler.conditionRange (f leaf) = compiler.conditionRange (g leaf))
    (hdate : ∀ leaf, (f leaf).isDateRange = (g leaf).isDateRange) (filter : Filter) :
    compiler.filterRange (filter.mapConditions f) =
      compiler.filterRange (filter.mapConditions g) := by
  induction filter using Filter.treeInduction with
  | condition leaf => exact hrange leaf
  | junction operator children ih =>
      have hchildren : children.mapM (compiler.filterRange ∘ Filter.mapConditions f) =
          children.mapM (compiler.filterRange ∘ Filter.mapConditions g) :=
        mapM_congr ih
      rw [Filter.mapConditions_junction, Filter.mapConditions_junction, filterRange_junction,
        filterRange_junction, List.mapM_map, List.mapM_map, hchildren]
  | negation child _ =>
      have hany : (child.mapConditions f).leaves.any Condition.isDateRange =
          (child.mapConditions g).leaves.any Condition.isDateRange := by
        rw [Filter.leaves_mapConditions, Filter.leaves_mapConditions, List.any_map, List.any_map]
        congr 1
        funext leaf
        exact hdate leaf
      rw [Filter.mapConditions_negation, Filter.mapConditions_negation, filterRange, filterRange,
        hany]

theorem dateRange_blanked (filter : Option Filter) :
    compiler.dateRange (filter.map (Filter.mapConditions Condition.blanked)) =
      compiler.dateRange filter := by
  cases filter with
  | none => rfl
  | some filter =>
      have hdate : ∀ leaf : Condition, leaf.blanked.isDateRange = leaf.isDateRange :=
        Condition.property_blanked _ fun leaf => Condition.isDateRange_of_isDropped
      have hrange : ∀ leaf : Condition, compiler.conditionRange leaf.blanked.normalizeUnits =
          compiler.conditionRange leaf.normalizeUnits := by
        apply Condition.property_blanked fun leaf => compiler.conditionRange leaf.normalizeUnits
        intro leaf hdropped
        apply conditionRange_of_not_dateRange
        rw [Condition.isDateRange_normalizeUnits, Condition.isDateRange_of_isDropped hdropped]
      have hfilter := filterRange_mapConditions
        (f := Condition.normalizeUnits ∘ Condition.blanked) (g := Condition.normalizeUnits)
        hrange (fun leaf => by
          rw [Function.comp_apply, Condition.isDateRange_normalizeUnits, hdate,
            Condition.isDateRange_normalizeUnits]) filter
      rw [Option.map_some, dateRange, dateRange, Filter.normalizeUnits,
        Filter.mapConditions_mapConditions, hfilter]

theorem segment_blanked (filter : Option Filter) :
    Filter.segment (filter.map (Filter.mapConditions Condition.blanked)) =
      Filter.segment filter := by
  cases filter with
  | none => rfl
  | some filter =>
      have hsegments : (filter.mapConditions Condition.blanked).builtinSegments =
          filter.builtinSegments := by
        have hbuiltin : Condition.isBuiltinSegment ∘ Condition.blanked =
            Condition.isBuiltinSegment := by
          funext leaf
          exact Condition.property_blanked _
            (fun leaf => Condition.isBuiltinSegment_of_isDropped) leaf
        rw [Filter.builtinSegments_eq, Filter.builtinSegments_eq, Filter.leaves_mapConditions,
          List.filter_map, hbuiltin]
        have hsame : ∀ leaf ∈ filter.leaves.filter Condition.isBuiltinSegment,
            leaf.blanked = id leaf := by
          intro leaf hleaf
          apply Condition.blanked_of_not_dropped
          by_contra hdropped
          have hnot := Condition.isBuiltinSegment_of_isDropped (eq_true_of_ne_false hdropped)
          rw [List.mem_filter, hnot] at hleaf
          exact Bool.false_ne_true hleaf.2
        rw [List.map_congr_left hsame, List.map_id]
      rw [Filter.segment, Filter.segment, Option.map_some, Option.elim_some, Option.elim_some,
        hsegments]

theorem requestFilter_blanked (compiler : Compiler) (filter : Option Filter) :
    compiler.requestFilter (filter.map (Filter.mapConditions Condition.blanked)) =
      compiler.requestFilter filter := by
  have hhalf : (filter.map (Filter.mapConditions Condition.blanked)).bind Filter.textHalf =
      filter.bind Filter.textHalf := by
    cases filter with
    | none => rfl
    | some filter => exact Filter.textHalf_blanked filter
  rw [requestFilter, requestFilter, hhalf]

/-- The stages see a filter with its dropped conditions blanked as they see the filter. -/
theorem stageParameters_blanked (compiler : Compiler) (query : Query) (stage : Stage) :
    compiler.stageParameters
        { query with filter := query.filter.map (Filter.mapConditions Condition.blanked) } stage =
      compiler.stageParameters query stage :=
  stageParameters_of_filter (dateRange_blanked query.filter)
    (requestFilter_blanked compiler query.filter) (segment_blanked query.filter) stage

/-- A query that compiles does so alike with other conditions in place of those dropped. -/
theorem compile_of_agreesBesidesDropped {filter other : Filter}
    (h : compiler.compile { query with filter := some filter } = .ok parameters)
    (hagrees : filter.AgreesBesidesDropped other) :
    compiler.compile { query with filter := some other } = .ok parameters := by
  apply compile_of_stages _ h
  intro stage added hadded
  have hfilter := stageParameters_blanked compiler { query with filter := some filter } stage
  have hother := stageParameters_blanked compiler { query with filter := some other } stage
  rw [Option.map_some] at hfilter hother
  rw [← hother, ← hagrees, hfilter]
  exact hadded

/-! ## Without them -/

theorem combineRanges_of_length_le {operator : Junction} {ranges : List (Option DateRange)}
    (h : (ranges.filterMap id).length ≤ 1) :
    combineRanges operator ranges = .ok (ranges.filterMap id).head? := by
  by_cases hpair : operator = .and ∧ ranges.length = 2
  · obtain ⟨rfl, hlength⟩ := hpair
    obtain ⟨first, second, rfl⟩ := List.length_eq_two.1 hlength
    cases first with
    | none => cases second <;> rfl
    | some left =>
        cases second with
        | none => rfl
        | some right => exact absurd h (Nat.not_succ_le_self 1)
  · rw [combineRanges_of_not_pair hpair, onlyRange_of_length_le h]

/-- Ranges combine alike without children that give none: two that are merged are both
needed, and otherwise there is one at most. -/
theorem combineRanges_of_sublist {operator : Junction} {kept ranges : List (Option DateRange)}
    {result : Option DateRange} (hsublist : kept.Sublist ranges)
    (hsame : kept.filterMap id = ranges.filterMap id)
    (h : combineRanges operator ranges = .ok result) :
    combineRanges operator kept = .ok result := by
  by_cases hone : (ranges.filterMap id).length ≤ 1
  · rw [combineRanges_of_length_le hone] at h
    rw [combineRanges_of_length_le (hsame ▸ hone), hsame, h]
  · have hpair : operator = .and ∧ ranges.length = 2 := by
      by_contra hnot
      rw [combineRanges_of_not_pair hnot, onlyRange_of_lt_length (by omega)] at h
      exact nomatch h
    have hlength : (kept.filterMap id).length ≤ kept.length := List.length_filterMap_le id kept
    have hkept : kept = ranges := by
      apply hsublist.eq_of_length_le
      rw [hsame] at hlength
      omega
    rw [hkept, h]

section Prune

variable {drop : Condition → Bool}

/-- The ranges of what remains of several filters are among theirs, and only filters
without a range are missing. -/
theorem exists_ranges_of_kept {children : List Filter} {ranges : List (Option DateRange)}
    (hchildren : ∀ child ∈ children, ∀ {range : Option DateRange},
      compiler.filterRange child = .ok range →
        (child.prune drop).elim (.ok none) compiler.filterRange = .ok range)
    (hranges : children.mapM compiler.filterRange = .ok ranges) :
    ∃ kept, (children.filterMap (Filter.prune drop)).mapM compiler.filterRange = .ok kept ∧
      kept.Sublist ranges ∧ kept.filterMap id = ranges.filterMap id := by
  rw [mapM_eq_ok_iff] at hranges
  induction hranges with
  | nil => exact ⟨[], rfl, .slnil, rfl⟩
  | @cons child range children ranges hchild _ ih =>
      obtain ⟨kept, hkept, hsublist, hsame⟩ := ih fun other hother =>
        hchildren other (List.mem_cons_of_mem _ hother)
      have hfirst := hchildren child List.mem_cons_self hchild
      rw [List.filterMap_cons]
      cases hprune : child.prune drop with
      | none =>
          rw [hprune] at hfirst
          obtain rfl : none = range := Except.ok.inj hfirst
          exact ⟨kept, hkept, hsublist.cons none, hsame⟩
      | some part =>
          rw [hprune, Option.elim_some] at hfirst
          refine ⟨range :: kept, ?_, hsublist.cons_cons range, ?_⟩
          · rw [mapM_eq_ok_iff] at hkept ⊢
            exact .cons hfirst hkept
          · rw [List.filterMap_cons, List.filterMap_cons, hsame]

/-- What remains of a junction has the range of what remains of its children, also if that
is nothing. -/
theorem filterRange_prune_junction (operator : Junction)
    (children : List Filter) :
    ((Filter.junction operator children).prune drop).elim (.ok none) compiler.filterRange =
      ((children.filterMap (Filter.prune drop)).mapM compiler.filterRange >>=
        combineRanges operator) := by
  rw [Filter.prune_junction]
  by_cases hnone : children.filterMap (Filter.prune drop) = []
  · rw [if_pos hnone, hnone]
    cases operator <;> rfl
  · rw [if_neg hnone, Option.elim_some, filterRange_junction]

/-- What remains of a negation has the range of the negation: none, if it has no conditions
of the date range. -/
theorem filterRange_prune_negation
    (hdrop : ∀ leaf, drop leaf = true → leaf.isDateRange = false) (child : Filter) :
    ((Filter.negation child).prune drop).elim (.ok none) compiler.filterRange =
      compiler.filterRange (.negation child) := by
  have hremaining := Filter.hasDateRange_prune hdrop child
  have hrange (part : Filter) : compiler.filterRange (.negation part) =
      if part.hasDateRange then .error .negatedDateRange else .ok none := rfl
  rw [Filter.prune_negation, hrange, ← hremaining]
  cases child.prune drop <;> rfl

/-- What a pruned filter gives, if conditions of the date range are not dropped. -/
theorem filterRange_prune (hdrop : ∀ leaf, drop leaf = true → leaf.isDateRange = false)
    {filter : Filter} {result : Option DateRange} (h : compiler.filterRange filter = .ok result) :
    (filter.prune drop).elim (.ok none) compiler.filterRange = .ok result := by
  induction filter using Filter.treeInduction generalizing result with
  | condition leaf =>
      rw [Filter.prune_condition]
      by_cases hleaf : drop leaf = true
      · rw [if_pos hleaf, Option.elim_none, ← h]
        exact (conditionRange_of_not_dateRange (hdrop leaf hleaf)).symm
      · rw [if_neg hleaf, Option.elim_some, h]
  | junction operator children ih =>
      rw [filterRange_junction, bind_eq_ok_iff] at h
      obtain ⟨ranges, hranges, hresult⟩ := h
      obtain ⟨kept, hkept, hsublist, hsame⟩ := exists_ranges_of_kept ih hranges
      rw [filterRange_prune_junction, hkept]
      exact combineRanges_of_sublist hsublist hsame hresult
  | negation child _ => rw [filterRange_prune_negation hdrop, h]

end Prune

theorem dateRange_prune {filter : Option Filter} {range : DateRange}
    (h : compiler.dateRange filter = .ok range) :
    compiler.dateRange (filter.bind (Filter.prune Condition.isDropped)) = .ok range := by
  cases filter with
  | none => exact h
  | some filter =>
      obtain ⟨result, hresult, hrange⟩ := bind_eq_ok_iff.1 h
      have hcommute : Condition.isDropped ∘ Condition.normalizeUnits = Condition.isDropped := by
        funext leaf
        exact leaf.isDropped_normalizeUnits
      have hdrop : ∀ leaf : Condition, leaf.isDropped = true → leaf.isDateRange = false :=
        fun leaf => Condition.isDateRange_of_isDropped
      have hpruned := filterRange_prune hdrop hresult
      rw [Filter.normalizeUnits, Filter.prune_mapConditions, hcommute] at hpruned
      rw [Option.bind_some]
      cases hprune : filter.prune Condition.isDropped with
      | none =>
          rw [hprune] at hpruned
          obtain rfl : none = result := Except.ok.inj hpruned
          exact hrange
      | some kept =>
          rw [hprune] at hpruned
          exact bind_eq_ok_iff.2 ⟨result, hpruned, hrange⟩

theorem segment_prune (filter : Option Filter) :
    Filter.segment (filter.bind (Filter.prune Condition.isDropped)) = Filter.segment filter := by
  cases filter with
  | none => rfl
  | some filter =>
      have hsegments : (filter.prune Condition.isDropped).elim [] Filter.builtinSegments =
          filter.builtinSegments := by
        have hleaves := Filter.leaves_prune Condition.isDropped filter
        have hbuiltin : (filter.leaves.filter fun leaf => !leaf.isDropped).filter
            Condition.isBuiltinSegment = filter.leaves.filter Condition.isBuiltinSegment := by
          rw [List.filter_filter]
          apply List.filter_congr
          intro leaf _
          cases hleaf : leaf.isDropped with
          | true => rw [Condition.isBuiltinSegment_of_isDropped hleaf]; rfl
          | false => exact Bool.and_true _
        rw [Filter.builtinSegments_eq, ← hbuiltin, ← hleaves]
        cases filter.prune Condition.isDropped with
        | none => rfl
        | some kept => exact Filter.builtinSegments_eq kept
      rw [Filter.segment, Filter.segment, Option.bind_some, hsegments, Option.elim_some]

/-- A query that compiles does so alike when the dropped conditions are left out. -/
theorem compile_prune (h : compiler.compile query = .ok parameters) :
    compiler.compile
      { query with filter := query.filter.bind (Filter.prune Condition.isDropped) } =
        .ok parameters := by
  apply compile_of_stages _ h
  intro stage added hadded
  cases stage with
  | dateRange =>
      obtain ⟨range, hrange, hbounds⟩ := bind_eq_ok_iff.1 hadded
      exact bind_eq_ok_iff.2 ⟨range, dateRange_prune hrange, hbounds⟩
  | filters =>
      have hhalf : (query.filter.bind (Filter.prune Condition.isDropped)).bind Filter.textHalf =
          query.filter.bind Filter.textHalf := by
        cases query.filter with
        | none => rfl
        | some filter =>
            apply Filter.prune_prune
            intro leaf hleaf
            rw [Condition.onBucketedField_of_isDropped hleaf, Bool.true_or]
      rw [stageParameters, filterParameters, requestFilter] at hadded ⊢
      rw [hhalf]
      exact hadded
  | segment =>
      rw [stageParameters, segmentParameters] at hadded ⊢
      rw [segment_prune]
      exact hadded
  | sourceTable => exact hadded
  | aggregation => exact hadded
  | breakout => exact hadded
  | orders => exact hadded
  | limit => exact hadded

end Compiler

end AnalyticsQuery
