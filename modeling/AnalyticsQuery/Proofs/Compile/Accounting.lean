import AnalyticsQuery.Proofs.Compile.Dropped
import AnalyticsQuery.Proofs.Compile.Reports
import AnalyticsQuery.Proofs.FilterText.Clauses

/-!
# Accounting for conditions

The filter text, the date range and the segment of a request are found by walks of their
own over one filter.  Whenever a query compiles, the walks share the conditions among
them: each occurrence is used by one walk or reported, none by two and none by no walk.
-/

namespace AnalyticsQuery

open Fallible
open FilterText

/-! ## Kinds of conditions -/

namespace Condition

/-- Whether a condition belongs into the filter text: it is neither on a bucketed field
nor a segment. -/
def isText (leaf : Condition) : Bool := leaf.field?.any fun field => !field.isBucketed

/-- Segments that are not built in are of no kind. -/
def HasKind (leaf : Condition) : Prop :=
  ∀ id, leaf = .segment id → id.isBuiltinSegment = true

variable {leaf : Condition}

theorem count_kinds (h : leaf.HasKind) :
    [leaf.isText, leaf.isDateRange, leaf.isBuiltinSegment, leaf.isDropped].count true = 1 := by
  cases leaf with
  | comparison operator field value =>
      cases field with
      | plain field => rfl
      | bucketed field unit => cases operator <;> rfl
  | between field lower upper => cases field <;> rfl
  | textMatch operator field value caseSensitive => cases field <;> rfl
  | segment id =>
      have hbuiltin : (segment id).isBuiltinSegment = true := h id rfl
      rw [hbuiltin]
      rfl

theorem isText_eq (h : leaf.HasKind) :
    leaf.isText = !(leaf.onBucketedField || leaf.isBuiltinSegment) := by
  cases leaf with
  | comparison operator field value => cases field <;> rfl
  | between field lower upper => cases field <;> rfl
  | textMatch operator field value caseSensitive => cases field <;> rfl
  | segment id =>
      have hbuiltin : (segment id).isBuiltinSegment = true := h id rfl
      rw [hbuiltin]
      rfl

theorem exists_name_of_isBuiltinSegment (h : leaf.isBuiltinSegment = true) :
    ∃ name, leaf = .segment (.name name) := by
  cases leaf with
  | segment id =>
      cases id with
      | number value => exact nomatch h
      | name value => exact ⟨value, rfl⟩
  | comparison operator field value => exact nomatch h
  | between field lower upper => exact nomatch h
  | textMatch operator field value caseSensitive => exact nomatch h

end Condition

/-- The conditions of a query, depth first. -/
def Query.leaves (query : Query) : List Condition := query.filter.elim [] Filter.leaves

namespace Filter

theorem leaves_textHalf (filter : Option Filter) :
    ((filter.bind textHalf).elim [] leaves) = (filter.elim [] leaves).filter fun leaf =>
      !(leaf.onBucketedField || leaf.isBuiltinSegment) := by
  cases filter with
  | none => rfl
  | some filter => exact leaves_prune _ filter

theorem mem_leaves_textHalf {filter : Option Filter} {leaf : Condition} :
    leaf ∈ (filter.bind textHalf).elim [] leaves ↔
      leaf ∈ filter.elim [] leaves ∧
        leaf.onBucketedField = false ∧ leaf.isBuiltinSegment = false := by
  rw [leaves_textHalf, List.mem_filter, Bool.not_eq_true', Bool.or_eq_false_iff]

/-- A filter with a segment holds no other, and the segment is the one that is found. -/
theorem segment_eq_ok {filter : Option Filter} {found : Option String}
    (h : segment filter = .ok found) {leaf : Condition} (hleaf : leaf ∈ filter.elim [] leaves)
    (hbuiltin : leaf.isBuiltinSegment = true) :
    (filter.elim [] leaves).filter Condition.isBuiltinSegment = [leaf] ∧
      ∃ name, leaf = .segment (.name name) ∧ found = some name := by
  have hnames : filter.elim [] builtinSegments =
      ((filter.elim [] leaves).filter Condition.isBuiltinSegment).filterMap
        Condition.segmentName? := by
    cases filter with
    | none => rfl
    | some filter => exact builtinSegments_eq filter
  have hmem : leaf ∈ (filter.elim [] leaves).filter Condition.isBuiltinSegment :=
    List.mem_filter.2 ⟨hleaf, hbuiltin⟩
  have hnamed : ∀ other ∈ (filter.elim [] leaves).filter Condition.isBuiltinSegment,
      ∃ name, other = .segment (.name name) := fun other hother =>
    Condition.exists_name_of_isBuiltinSegment (List.mem_filter.1 hother).2
  unfold segment at h
  rw [hnames] at h
  match hsegments : (filter.elim [] leaves).filter Condition.isBuiltinSegment with
  | [] =>
      rw [hsegments] at hmem
      exact absurd hmem List.not_mem_nil
  | [only] =>
      rw [hsegments] at h hmem hnamed
      obtain rfl : leaf = only := List.mem_singleton.1 hmem
      obtain ⟨name, rfl⟩ := hnamed leaf List.mem_cons_self
      exact ⟨rfl, name, rfl, (Except.ok.inj h).symm⟩
  | first :: second :: others =>
      rw [hsegments] at h hnamed
      obtain ⟨firstName, rfl⟩ := hnamed first List.mem_cons_self
      obtain ⟨secondName, rfl⟩ := hnamed second (List.mem_cons_of_mem _ List.mem_cons_self)
      exact nomatch h

end Filter

namespace Compiler

variable {compiler : Compiler} {query : Query} {parameters : Parameters}

/-! ## The filter text of a request -/

section Request

variable {filter : Option Filter} {text : Option String}

/-- Conditions whose clauses make up the filter text of a request. -/
theorem exists_clauses_of_requestFilter (h : compiler.requestFilter filter = .ok text) :
    ∀ leaf ∈ (filter.bind Filter.textHalf).elim [] Filter.leaves,
      ∃ clauses, compiler.clauseTexts leaf = .ok clauses := by
  obtain ⟨written, hwritten, _⟩ := bind_eq_ok_iff.1 h
  cases hhalf : filter.bind Filter.textHalf with
  | none => exact fun leaf hleaf => absurd hleaf List.not_mem_nil
  | some half =>
      rw [hhalf] at hwritten
      exact exists_filterText_iff.1 ⟨written, hwritten⟩

/-- The filter text of a request is that of the chain of its half of the filter. -/
theorem requestFilter_eq_write (h : compiler.requestFilter filter = .ok text) :
    text = ((filter.bind Filter.textHalf).bind (Filter.chain compiler.clausesOf)).map
      Chain.write := by
  obtain ⟨written, hwritten, htext⟩ := bind_eq_ok_iff.1 h
  rw [← Except.ok.inj htext]
  cases hhalf : filter.bind Filter.textHalf with
  | none =>
      rw [hhalf] at hwritten
      rw [← Except.ok.inj hwritten]
      rfl
  | some half =>
      rw [hhalf] at hwritten
      rw [Option.bind_some]
      cases hchain : half.chain compiler.clausesOf with
      | none =>
          have hempty := filter_filterText hwritten
          rw [hchain] at hempty
          cases written with
          | none => rfl
          | some text =>
              have hblank : text = "" := by
                by_contra hne
                rw [Option.filter_some, if_pos (by simpa using hne)] at hempty
                exact nomatch hempty
              rw [hblank]
              rfl
      | some chain =>
          rw [filterText_eq_write hwritten hchain, Option.filter_some, allBlank_write hchain]
          rfl

theorem clauses_textHalf (compiler : Compiler) (filter : Option Filter) :
    (Chain.piecesIn ((filter.bind Filter.textHalf).bind
      (Filter.chain compiler.clausesOf))).map Piece.clause =
        ((filter.bind Filter.textHalf).elim [] Filter.leaves).flatMap compiler.clausesOf := by
  cases filter.bind Filter.textHalf with
  | none => rfl
  | some half => exact Filter.clauses_chain compiler.clausesOf half

end Request

/-! ## Every condition is accounted for -/

/-- The pieces of the filter text that is sent, if there is one. -/
def sentPieces (parameters : Parameters) : List (List Char) :=
  match parameters.lookup .filters with
  | some (.text text) => (split text.toList).pieces
  | _ => []

/-- What becomes of each condition of a query that is compiled to parameters. -/
structure Accounts (compiler : Compiler) (query : Query) (parameters : Parameters) : Prop where
  /-- Each condition is of exactly one of four kinds. -/
  kinds : ∀ leaf ∈ query.leaves,
    [leaf.isText, leaf.isDateRange, leaf.isBuiltinSegment, leaf.isDropped].count true = 1
  /-- Conditions of the first kind are what the filter text is written from. -/
  texts : (query.filter.bind Filter.textHalf).elim [] Filter.leaves =
    query.leaves.filter Condition.isText
  /-- The pieces sent are their clauses, in order: two for a range, one for any other. -/
  clauses : ∃ clauses, (query.leaves.filter Condition.isText).mapM compiler.clauseTexts =
      .ok clauses ∧
    clauses.map List.length = (query.leaves.filter Condition.isText).map Condition.clauseCount ∧
    List.Forall₂ (fun clause piece => ∃ negations, piece = List.replicate negations '!' ++
      escapeChars clauseCharacters clause.toList) clauses.flatten (sentPieces parameters)
  /-- Without such conditions no filter text is sent. -/
  noText : parameters.lookup .filters = none ↔ query.leaves.filter Condition.isText = []
  /-- A condition of the date range has bounds at the ends that its operator says, and each
  of them is the one sent, unless it is blank. -/
  bounds : ∀ leaf ∈ query.leaves, leaf.isDateRange = true →
    ∃ range, compiler.conditionRange leaf.normalizeUnits = .ok (some range) ∧
      (∀ side, (range.bound side).isSome = leaf.limits side) ∧
      (∀ bound, range.first = some bound → parameters.lookup .startDate =
        some (.text (if bound = "" then compiler.config.earliestDate else bound))) ∧
      ∀ bound, range.last = some bound → parameters.lookup .endDate =
        some (.text (if bound = "" then compiler.config.latestDate else bound))
  /-- A built-in segment is the only one, and the one sent. -/
  segments : ∀ leaf ∈ query.leaves, leaf.isBuiltinSegment = true →
    query.leaves.filter Condition.isBuiltinSegment = [leaf] ∧
      ∃ name, leaf = .segment (.name name) ∧ parameters.lookup .segment = some (.text name)
  /-- Other dropped conditions in place of those of the filter change no parameter. -/
  replaced : ∀ filter other, query.filter = some filter → filter.AgreesBesidesDropped other →
    compiler.compile { query with filter := some other } = .ok parameters
  /-- Leaving out the dropped conditions changes no parameter. -/
  leftOut : compiler.compile
    { query with filter := query.filter.bind (Filter.prune Condition.isDropped) } =
      .ok parameters
  /-- Each dropped condition is warned about once, in order, and besides them only a limit
  that is too high. -/
  warned : compiler.warnings query =
    (query.leaves.filter Condition.isDropped).map (fun leaf => .dropped leaf.normalizeUnits) ++
      match query.limit with
      | none => []
      | some limit =>
          if compiler.config.maxResults < limit then
            [.limitExceeded limit compiler.config.maxResults]
          else []

theorem hasKind_of_requestFilter {text : Option String}
    (h : compiler.requestFilter query.filter = .ok text) :
    ∀ leaf ∈ query.leaves, leaf.HasKind := by
  rintro _ hleaf id rfl
  by_contra hbuiltin
  have hkept : Condition.segment id ∈
      (query.filter.bind Filter.textHalf).elim [] Filter.leaves :=
    Filter.mem_leaves_textHalf.2 ⟨hleaf, rfl, eq_false_of_ne_true hbuiltin⟩
  obtain ⟨clauses, hclauses⟩ := exists_clauses_of_requestFilter h _ hkept
  exact nomatch hclauses

theorem leaves_textHalf_eq_isText {text : Option String}
    (h : compiler.requestFilter query.filter = .ok text) :
    (query.filter.bind Filter.textHalf).elim [] Filter.leaves =
      query.leaves.filter Condition.isText := by
  rw [Filter.leaves_textHalf]
  apply List.filter_congr
  intro leaf hleaf
  exact (Condition.isText_eq (hasKind_of_requestFilter h leaf hleaf)).symm

theorem boundOr_some (bound configured : String) :
    boundOr (some bound) configured = if bound = "" then configured else bound := by
  by_cases hblank : bound = ""
  · rw [if_pos hblank, hblank]
    rfl
  · rw [if_neg hblank, boundOr, Option.filter_some, if_pos (by simpa using hblank)]
    rfl

/-- The bounds that one condition implies are those of the whole filter. -/
theorem bound_of_conditionRange {range leafRange : DateRange}
    (h : compiler.dateRange query.filter = .ok range) {leaf : Condition}
    (hleaf : leaf ∈ query.leaves)
    (hrange : compiler.conditionRange leaf.normalizeUnits = .ok (some leafRange))
    (side : DateRange.Side) {text : String} (hbound : leafRange.bound side = some text) :
    range.bound side = some text := by
  have himplied : text ∈ compiler.impliedTexts side query.leaves := by
    rw [impliedTexts, List.mem_filterMap]
    refine ⟨leaf, hleaf, ?_⟩
    rw [hrange]
    exact hbound
  rw [Query.leaves] at himplied
  cases hfilter : query.filter with
  | none =>
      rw [hfilter] at himplied
      exact absurd himplied List.not_mem_nil
  | some filter =>
      rw [hfilter] at h himplied
      obtain ⟨result, hresult, rfl⟩ := dateRange_eq_ok_iff.1 h
      obtain ⟨_, _, hcollects⟩ := collects_of_filterRange hresult
      cases result with
      | none =>
          rw [Option.elim_some, impliedTexts_of_none hcollects] at himplied
          exact absurd himplied List.not_mem_nil
      | some whole => exact (hcollects.2 side text).2 himplied

/-! ### What the stages send -/

theorem lookup_bounds (h : compiler.compile query = .ok parameters) :
    ∃ range, compiler.dateRange query.filter = .ok range ∧
      parameters.lookup .startDate =
        some (.text (boundOr range.first compiler.config.earliestDate)) ∧
      parameters.lookup .endDate =
        some (.text (boundOr range.last compiler.config.latestDate)) := by
  obtain ⟨added, hadded, hstart⟩ := lookup_compile h .startDate rfl
  obtain ⟨again, hagain, hend⟩ := lookup_compile h .endDate rfl
  obtain rfl : added = again := Except.ok.inj (hadded.symm.trans hagain)
  obtain ⟨range, hrange, hbounds⟩ := bind_eq_ok_iff.1 hadded
  rw [← Except.ok.inj hbounds] at hstart hend
  exact ⟨range, hrange, hstart, hend⟩

theorem lookup_filters (h : compiler.compile query = .ok parameters) :
    ∃ text, compiler.requestFilter query.filter = .ok text ∧
      parameters.lookup .filters = text.map .text := by
  obtain ⟨added, hadded, hlookup⟩ := lookup_compile h .filters rfl
  obtain ⟨text, htext, hfilters⟩ := bind_eq_ok_iff.1 hadded
  rw [← Except.ok.inj hfilters, Parameters.lookup_ofText?] at hlookup
  exact ⟨text, htext, hlookup⟩

theorem lookup_segment (h : compiler.compile query = .ok parameters) :
    ∃ found, Filter.segment query.filter = .ok found ∧
      parameters.lookup .segment = found.map .text := by
  obtain ⟨added, hadded, hlookup⟩ := lookup_compile h .segment rfl
  obtain ⟨found, hfound, hsegment⟩ := bind_eq_ok_iff.1 hadded
  rw [← Except.ok.inj hsegment, Parameters.lookup_ofText?] at hlookup
  exact ⟨found, hfound, hlookup⟩

/-! ### The kinds one by one -/

section Text

variable {text : Option String} (htext : compiler.requestFilter query.filter = .ok text)
  (hlookup : parameters.lookup .filters = text.map .text)

include htext hlookup

theorem sentPieces_eq : sentPieces parameters =
    (Chain.piecesIn ((query.filter.bind Filter.textHalf).bind
      (Filter.chain compiler.clausesOf))).map Piece.text := by
  rw [sentPieces, hlookup, requestFilter_eq_write htext]
  cases (query.filter.bind Filter.textHalf).bind (Filter.chain compiler.clausesOf) with
  | none => rfl
  | some chain =>
      change (split chain.write.toList).pieces = _
      rw [Chain.split_write, Chain.pieces_map]
      rfl

theorem clauses_sent : ∃ clauses,
    (query.leaves.filter Condition.isText).mapM compiler.clauseTexts = .ok clauses ∧
    clauses.map List.length = (query.leaves.filter Condition.isText).map Condition.clauseCount ∧
    List.Forall₂ (fun clause piece => ∃ negations, piece = List.replicate negations '!' ++
      escapeChars clauseCharacters clause.toList) clauses.flatten (sentPieces parameters) := by
  have hclauses := exists_clauses_of_requestFilter htext
  rw [leaves_textHalf_eq_isText htext] at hclauses
  obtain ⟨clauses, hmapM⟩ := exists_ok_mapM hclauses
  have hflatten : clauses.flatten =
      (Chain.piecesIn ((query.filter.bind Filter.textHalf).bind
        (Filter.chain compiler.clausesOf))).map Piece.clause := by
    rw [clauses_textHalf, leaves_textHalf_eq_isText htext, List.flatMap_def, map_clausesOf hmapM]
  refine ⟨clauses, hmapM, ?_, ?_⟩
  · rw [← map_clausesOf hmapM, List.map_map]
    apply List.map_congr_left
    intro leaf hleaf
    obtain ⟨texts, htexts⟩ := hclauses leaf hleaf
    rw [Function.comp_apply, clausesOf_eq htexts, length_of_clauseTexts htexts]
  · rw [hflatten, sentPieces_eq htext hlookup, List.forall₂_map_left_iff,
      List.forall₂_map_right_iff, List.forall₂_same]
    intro piece _
    exact ⟨piece.negations, rfl⟩

theorem lookup_filters_eq_none_iff :
    parameters.lookup .filters = none ↔ query.leaves.filter Condition.isText = [] := by
  have hclauses := exists_clauses_of_requestFilter htext
  rw [hlookup, requestFilter_eq_write htext, Option.map_map, Option.map_eq_none_iff,
    ← leaves_textHalf_eq_isText htext]
  cases hhalf : query.filter.bind Filter.textHalf with
  | none => exact iff_of_true rfl rfl
  | some half =>
      apply Filter.chain_eq_none_iff_leaves
      intro leaf hleaf
      rw [hhalf] at hclauses
      obtain ⟨clauses, hwritten⟩ := hclauses leaf hleaf
      exact clausesOf_ne_nil hwritten

end Text

theorem bounds_sent {range : DateRange} (hrange : compiler.dateRange query.filter = .ok range)
    (hstart : parameters.lookup .startDate =
      some (.text (boundOr range.first compiler.config.earliestDate)))
    (hend : parameters.lookup .endDate =
      some (.text (boundOr range.last compiler.config.latestDate))) :
    ∀ leaf ∈ query.leaves, leaf.isDateRange = true →
      ∃ range, compiler.conditionRange leaf.normalizeUnits = .ok (some range) ∧
        (∀ side, (range.bound side).isSome = leaf.limits side) ∧
        (∀ bound, range.first = some bound → parameters.lookup .startDate =
          some (.text (if bound = "" then compiler.config.earliestDate else bound))) ∧
        ∀ bound, range.last = some bound → parameters.lookup .endDate =
          some (.text (if bound = "" then compiler.config.latestDate else bound)) := by
  intro leaf hleaf hdate
  obtain ⟨leafRange, hleafRange⟩ : ∃ leafRange,
      compiler.conditionRange leaf.normalizeUnits = .ok (some leafRange) := by
    rw [Query.leaves] at hleaf
    cases hfilter : query.filter with
    | none =>
        rw [hfilter] at hleaf
        exact absurd hleaf List.not_mem_nil
    | some filter =>
        rw [hfilter] at hleaf hrange
        obtain ⟨result, hresult, _⟩ := dateRange_eq_ok_iff.1 hrange
        exact exists_conditionRange_of_filterRange hresult hleaf hdate
  refine ⟨leafRange, hleafRange, ?_, ?_, ?_⟩
  · intro side
    rw [isSome_bound_of_conditionRange hleafRange, Condition.limits_normalizeUnits]
  · intro bound hbound
    have hfirst : range.first = some bound :=
      bound_of_conditionRange hrange hleaf hleafRange .first hbound
    rw [hstart, hfirst, boundOr_some]
  · intro bound hbound
    have hlast : range.last = some bound :=
      bound_of_conditionRange hrange hleaf hleafRange .last hbound
    rw [hend, hlast, boundOr_some]

/-- Whenever a query compiles, each occurrence of a condition in its filter is accounted
for: no condition is lost and none is used twice. -/
theorem accounts_of_compile (h : compiler.compile query = .ok parameters) :
    compiler.Accounts query parameters := by
  obtain ⟨range, hrange, hstart, hend⟩ := lookup_bounds h
  obtain ⟨text, htext, hfilters⟩ := lookup_filters h
  obtain ⟨found, hfound, hsegment⟩ := lookup_segment h
  exact {
    kinds := fun leaf hleaf => Condition.count_kinds (hasKind_of_requestFilter htext leaf hleaf)
    texts := leaves_textHalf_eq_isText htext
    clauses := clauses_sent htext hfilters
    noText := lookup_filters_eq_none_iff htext hfilters
    bounds := bounds_sent hrange hstart hend
    segments := by
      intro leaf hleaf hbuiltin
      obtain ⟨honly, name, hname, rfl⟩ := Filter.segment_eq_ok hfound hleaf hbuiltin
      exact ⟨honly, name, hname, hsegment⟩
    replaced := by
      intro filter other hfilter hagrees
      apply compile_of_agreesBesidesDropped _ hagrees
      rw [← hfilter]
      exact h
    leftOut := compile_prune h
    warned := by
      rw [warnings, droppedConditions_eq hrange, List.map_map]
      rfl }

/-- A query with a condition of each kind, one of them under a negation. -/
theorem accounts_of_compile_four_kinds :
    let compiler : Compiler :=
      { bare with metadata := Metadata.provider { tables := [(.number 1, "123")] } }
    let day : Field := .bucketed (.literal "ga:date") .default
    let query : Query :=
      { sourceTable := .number 1, aggregations := [.metric (.name "ga:sessions")],
        breakout := [], orders := [], limit := some 20000,
        filter := some (.junction .and
          [.condition (.comparison .atLeast day (.literal (.text "2020-01-01") none)),
            .negation (.junction .or
              [.condition (.between (.plain (.literal "ga:hits")) (.literal (.int 1) none)
                  (.literal (.int 9) none)),
                .condition (.comparison .notEqual day (.literal (.text "2020-02-02") none))]),
            .condition (.segment (.name "gaid::-3"))]) }
    let parameters : Parameters :=
      [(.includeEmptyRows, .bool false), (.ids, .text "ga:123"),
        (.metrics, .text "ga:sessions"), (.dimensions, .text ""),
        (.startDate, .text "2020-01-01"), (.endDate, .text "today"),
        (.filters, .text "!ga:hits>=1;ga:hits<=9"), (.segment, .text "gaid::-3"),
        (.maxResults, .int 20000)]
    compiler.compile query = .ok parameters ∧ compiler.Accounts query parameters ∧
      compiler.warnings query =
        [.dropped (.comparison .notEqual (.bucketed (.literal "ga:date") .day)
          (.literal (.text "2020-02-02") none)), .limitExceeded 20000 10000] := by
  intro compiler day query parameters
  have hcompile : compiler.compile query = .ok parameters := by decide +kernel
  have haccounts := accounts_of_compile hcompile
  exact ⟨hcompile, haccounts, haccounts.warned⟩

end Compiler

end AnalyticsQuery
