import AnalyticsQuery.Proofs.Compile.Agreement

/-!
# Names that a query asks for

A query names its source table, and by their numbers the plain fields by which it groups,
sorts or filters.  These are all that is looked up for it: a bucketed field is known by its
unit, so the number inside it needs no name.
-/

namespace AnalyticsQuery

open Fallible

/-- The number under which a field is looked up, if it is. -/
def Field.lookedUp? : Field → Option Int
  | plain (.id number) => some number
  | plain (.literal _) => none
  | bucketed _ _ => none

/-- The field by which an order sorts, if it does not sort by an aggregation. -/
def OrderTarget.field? : OrderTarget → Option Field
  | .field target => some target
  | .aggregation _ => none

namespace Query

/-- The fields by which a query groups, sorts and filters. -/
def fields (query : Query) : List Field :=
  query.breakout ++ query.orders.filterMap (fun order => order.target.field?) ++
    query.leaves.filterMap Condition.field?

def fieldIds (query : Query) : List Int := query.fields.filterMap Field.lookedUp?

variable {query : Query} {field : Field} {number : Int}

theorem mem_fieldIds (hfield : field ∈ query.fields) (hnumber : field.lookedUp? = some number) :
    number ∈ query.fieldIds :=
  List.mem_filterMap.2 ⟨field, hfield, hnumber⟩

theorem mem_fields_of_breakout (h : field ∈ query.breakout) : field ∈ query.fields :=
  List.mem_append_left _ (List.mem_append_left _ h)

theorem mem_fields_of_order {order : Order} (horder : order ∈ query.orders)
    (h : order.target.field? = some field) : field ∈ query.fields :=
  List.mem_append_left _ (List.mem_append_right _ (List.mem_filterMap.2 ⟨order, horder, h⟩))

theorem mem_fields_of_leaf {leaf : Condition} (hleaf : leaf ∈ query.leaves)
    (h : leaf.field? = some field) : field ∈ query.fields :=
  List.mem_append_right _ (List.mem_filterMap.2 ⟨leaf, hleaf, h⟩)

end Query

/-! ## Sources of names -/

namespace MetadataProvider

variable {metadata larger : MetadataProvider} {query : Query}

/-- Two sources that answer alike for everything that a query names. -/
structure AgreesOn (left right : MetadataProvider) (query : Query) : Prop where
  table : left.tableName query.sourceTable = right.tableName query.sourceTable
  fields : ∀ number ∈ query.fieldIds, left.fieldName number = right.fieldName number

/-- Whatever one source has a name for has the same name in the other. -/
structure Extends (larger metadata : MetadataProvider) : Prop where
  tables : ∀ table name, metadata.tableName table = .ok name → larger.tableName table = .ok name
  fields : ∀ number name, metadata.fieldName number = .ok name →
    larger.fieldName number = .ok name

/-- Everything that a query names has a name. -/
structure Knows (metadata : MetadataProvider) (query : Query) : Prop where
  table : ∃ name, metadata.tableName query.sourceTable = .ok name
  fields : ∀ number ∈ query.fieldIds, ∃ name, metadata.fieldName number = .ok name

theorem agreesOn_of_extends (hlarger : larger.Extends metadata) (h : metadata.Knows query) :
    metadata.AgreesOn larger query where
  table := by
    obtain ⟨name, hname⟩ := h.table
    rw [hname, hlarger.tables _ _ hname]
  fields := by
    intro number hnumber
    obtain ⟨name, hname⟩ := h.fields number hnumber
    rw [hname, hlarger.fields _ _ hname]

end MetadataProvider

namespace Metadata

variable {metadata larger : Metadata}

/-- The entries for what a query names, and no others. -/
def restrictedTo (metadata : Metadata) (query : Query) : Metadata where
  tables := metadata.tables.filter fun entry => entry.1 = query.sourceTable
  fields := metadata.fields.filter fun entry => entry.1 ∈ query.fieldIds

/-- Entries under keys of their own can be added. -/
theorem extends_of_subset (htables : (larger.tables.map Prod.fst).Nodup)
    (hfields : (larger.fields.map Prod.fst).Nodup) (hmoreTables : metadata.tables ⊆ larger.tables)
    (hmoreFields : metadata.fields ⊆ larger.fields) :
    larger.provider.Extends metadata.provider where
  tables := by
    intro table name h
    rw [tableName_provider_eq_ok_iff] at h ⊢
    exact (lookup_eq_some_iff_mem htables).2 (hmoreTables (mem_of_lookup h))
  fields := by
    intro number name h
    rw [fieldName_provider_eq_ok_iff] at h ⊢
    exact (lookup_eq_some_iff_mem hfields).2 (hmoreFields (mem_of_lookup h))

theorem agreesOn_restrictedTo (metadata : Metadata) (query : Query) :
    metadata.provider.AgreesOn (metadata.restrictedTo query).provider query where
  table := by
    have htable : (metadata.restrictedTo query).tableName? query.sourceTable =
        metadata.tableName? query.sourceTable :=
      lookup_filter_of_pos metadata.tables (fun table => table = query.sourceTable)
        (decide_eq_true rfl)
    simp only [provider, htable]
  fields := by
    intro number hnumber
    have hfield : (metadata.restrictedTo query).fieldName? number = metadata.fieldName? number :=
      lookup_filter_of_pos metadata.fields (fun number => number ∈ query.fieldIds)
        (decide_eq_true hnumber)
    simp only [provider, hfield]

end Metadata

namespace Compiler

variable {compiler : Compiler} {query : Query} {metadata : MetadataProvider}

/-! ## What is looked up -/

theorem dimension_congr {field : Field}
    (h : ∀ number, field.lookedUp? = some number →
      compiler.metadata.fieldName number = metadata.fieldName number) :
    compiler.dimension field = { compiler with metadata }.dimension field := by
  cases field with
  | bucketed field unit => rfl
  | plain field =>
      cases field with
      | literal name => rfl
      | id number => rw [dimension, dimension, plainFieldName, plainFieldName, h number rfl]

theorem fieldName_congr {field : Field} (hfield : field.isBucketed = false)
    (h : ∀ number, field.lookedUp? = some number →
      compiler.metadata.fieldName number = metadata.fieldName number) :
    compiler.fieldName field = { compiler with metadata }.fieldName field := by
  cases field with
  | bucketed field unit => exact nomatch hfield
  | plain field => exact dimension_congr h

theorem clauseTexts_congr {leaf : Condition} (hleaf : leaf.onBucketedField = false)
    (h : ∀ field number, leaf.field? = some field → field.lookedUp? = some number →
      compiler.metadata.fieldName number = metadata.fieldName number) :
    compiler.clauseTexts leaf = { compiler with metadata }.clauseTexts leaf := by
  cases leaf with
  | comparison operator field value =>
      rw [clauseTexts, clauseTexts, fieldName_congr hleaf fun number => h field number rfl]
      rfl
  | between field lower upper =>
      rw [clauseTexts, clauseTexts, fieldName_congr hleaf fun number => h field number rfl]
      rfl
  | textMatch operator field value caseSensitive =>
      rw [clauseTexts, clauseTexts, fieldName_congr hleaf fun number => h field number rfl]
      rfl
  | segment id => rfl

/-- Bounds need no names, only the clock and the settings. -/
theorem conditionRange_metadata (leaf : Condition) :
    { compiler with metadata }.conditionRange leaf = compiler.conditionRange leaf := rfl

theorem agreesOn_of_metadata (h : compiler.metadata.AgreesOn metadata query) :
    compiler.AgreesOn { compiler with metadata } query where
  config := rfl
  table := by rw [tableName, tableName, h.table]
  dimensions := by
    intro field hfield
    apply dimension_congr
    intro number hnumber
    exact h.fields number (Query.mem_fieldIds (Query.mem_fields_of_breakout hfield) hnumber)
  targets := by
    intro order horder
    cases htarget : order.target with
    | aggregation index => rfl
    | field field =>
        have hfield : order.target.field? = some field := by rw [htarget]; rfl
        apply dimension_congr
        intro number hnumber
        exact h.fields number
          (Query.mem_fieldIds (Query.mem_fields_of_order horder hfield) hnumber)
  ranges := fun leaf _ => (conditionRange_metadata leaf).symm
  clauses := by
    intro leaf hleaf hplain _
    apply clauseTexts_congr hplain
    intro field number hfield hnumber
    exact h.fields number (Query.mem_fieldIds (Query.mem_fields_of_leaf hleaf hfield) hnumber)

/-! ## What a compilation that succeeds has found -/

theorem exists_name_of_dimension {field : Field} {number : Int} {text : String}
    (h : compiler.dimension field = .ok text) (hnumber : field.lookedUp? = some number) :
    ∃ name, compiler.metadata.fieldName number = .ok name := by
  cases field with
  | bucketed field unit => exact nomatch hnumber
  | plain field =>
      cases field with
      | literal name => exact nomatch hnumber
      | id other =>
          obtain rfl := Option.some.inj hnumber
          exact ⟨text, h⟩

/-- A condition with clauses has a field with a name. -/
theorem exists_fieldName_of_clauseTexts {leaf : Condition} {clauses : List String} {field : Field}
    (h : compiler.clauseTexts leaf = .ok clauses) (hfield : leaf.field? = some field) :
    ∃ name, compiler.fieldName field = .ok name := by
  rw [clauseTexts_eq_ok_iff] at h
  cases leaf with
  | comparison operator target value =>
      obtain rfl := Option.some.inj hfield
      obtain ⟨name, _, hname, _⟩ := h
      exact ⟨name, hname⟩
  | between target lower upper =>
      obtain rfl := Option.some.inj hfield
      obtain ⟨name, _, _, hname, _⟩ := h
      exact ⟨name, hname⟩
  | textMatch operator target value caseSensitive =>
      obtain rfl := Option.some.inj hfield
      obtain ⟨name, _, hname, _⟩ := h
      exact ⟨name, hname⟩
  | segment id => exact h.elim

section Compiled

variable {parameters : Parameters} {field : Field} {number : Int}
  (h : compiler.compile query = .ok parameters) (hnumber : field.lookedUp? = some number)

include h

theorem exists_name_of_sourceTable :
    ∃ name, compiler.metadata.tableName query.sourceTable = .ok name := by
  obtain ⟨added, hadded, _⟩ := lookup_compile h .ids rfl
  obtain ⟨text, htext, _⟩ := bind_eq_ok_iff.1 hadded
  exact ⟨text, htext⟩

include hnumber

theorem exists_name_of_breakout (hfield : field ∈ query.breakout) :
    ∃ name, compiler.metadata.fieldName number = .ok name := by
  obtain ⟨added, hadded, _⟩ := lookup_compile h .dimensions rfl
  obtain ⟨dimensions, hdimensions, _⟩ := bind_eq_ok_iff.1 hadded
  obtain ⟨text, htext⟩ := exists_ok_of_mem hdimensions hfield
  exact exists_name_of_dimension htext hnumber

theorem exists_name_of_order {order : Order} (horder : order ∈ query.orders)
    (htarget : order.target.field? = some field) :
    ∃ name, compiler.metadata.fieldName number = .ok name := by
  obtain ⟨added, hadded, _⟩ := lookup_compile h .sort rfl
  change compiler.orderParameters query = .ok added at hadded
  rw [orderParameters, if_neg (by simpa using List.ne_nil_of_mem horder)] at hadded
  obtain ⟨keys, hkeys, _⟩ := bind_eq_ok_iff.1 hadded
  obtain ⟨key, hkey⟩ := exists_ok_of_mem hkeys horder
  obtain ⟨text, htext, _⟩ := bind_eq_ok_iff.1 hkey
  cases hfound : order.target with
  | aggregation index =>
      rw [hfound] at htarget
      cases htarget
  | field target =>
      rw [hfound] at htarget htext
      obtain rfl := Option.some.inj htarget
      exact exists_name_of_dimension htext hnumber

/-- A condition with a field that is looked up is one of the filter text. -/
theorem exists_name_of_leaf {leaf : Condition} (hleaf : leaf ∈ query.leaves)
    (hfield : leaf.field? = some field) :
    ∃ name, compiler.metadata.fieldName number = .ok name := by
  obtain ⟨base, rfl⟩ : ∃ base, field = .plain base := by
    cases field with
    | plain base => exact ⟨base, rfl⟩
    | bucketed base unit => exact nomatch hnumber
  obtain ⟨text, htext, _⟩ := lookup_filters h
  have hkept : leaf.isText = true := by
    rw [Condition.isText, hfield]
    rfl
  have hhalf : leaf ∈ (query.filter.bind Filter.textHalf).elim [] Filter.leaves := by
    rw [leaves_textHalf_eq_isText htext, List.mem_filter]
    exact ⟨hleaf, hkept⟩
  obtain ⟨clauses, hclauses⟩ := exists_clauses_of_requestFilter htext leaf hhalf
  obtain ⟨name, hname⟩ := exists_fieldName_of_clauseTexts hclauses hfield
  have hdimension : compiler.dimension (.plain base) = .ok name := hname
  exact exists_name_of_dimension hdimension hnumber

omit hnumber in
theorem knows_of_compile : compiler.metadata.Knows query where
  table := exists_name_of_sourceTable h
  fields := by
    intro number hnumber
    obtain ⟨field, hfield, hlookedUp⟩ := List.mem_filterMap.1 hnumber
    rcases List.mem_append.1 hfield with hfield | hfilter
    · rcases List.mem_append.1 hfield with hbreakout | horders
      · exact exists_name_of_breakout h hlookedUp hbreakout
      · obtain ⟨order, horder, htarget⟩ := List.mem_filterMap.1 horders
        exact exists_name_of_order h hlookedUp horder htarget
    · obtain ⟨leaf, hleaf, htarget⟩ := List.mem_filterMap.1 hfilter
      exact exists_name_of_leaf h hlookedUp hleaf htarget

end Compiled

/-! ## Sources that agree -/

/-- A compilation depends on its source of names only through the table and the fields
that the query names.  So all other entries of a dictionary may be left out, and entries that
are added change no compilation that succeeds. -/
theorem compile_of_agreeing_names (compiler : Compiler) (query : Query) :
    (∀ metadata : MetadataProvider, compiler.metadata.AgreesOn metadata query →
      { compiler with metadata }.compile query = compiler.compile query) ∧
    (∀ metadata : Metadata, compiler.metadata = metadata.provider →
      { compiler with metadata := (metadata.restrictedTo query).provider }.compile query =
        compiler.compile query) ∧
    ∀ (metadata : MetadataProvider) (parameters : Parameters),
      metadata.Extends compiler.metadata → compiler.compile query = .ok parameters →
        { compiler with metadata }.compile query = .ok parameters := by
  have hagrees : ∀ metadata : MetadataProvider, compiler.metadata.AgreesOn metadata query →
      { compiler with metadata }.compile query = compiler.compile query :=
    fun metadata h => (agreesOn_of_metadata h).compile_eq.symm
  refine ⟨hagrees, ?_, ?_⟩
  · intro metadata hmetadata
    apply hagrees
    rw [hmetadata]
    exact metadata.agreesOn_restrictedTo query
  · intro metadata parameters hextends h
    have hknows := knows_of_compile h
    rw [hagrees metadata (MetadataProvider.agreesOn_of_extends hextends hknows), h]

/-- A query with dates 7, 8 and 9, none of which has a name, and a larger source. -/
theorem compile_of_agreeing_names_dates :
    let metadata : Metadata := { tables := [(.number 1, "123")], fields := [(2, "ga:country")] }
    let larger : Metadata :=
      { tables := [(.name "all", "5"), (.number 1, "123")]
        fields := [(7, "ga:nthDay"), (2, "ga:country")] }
    let compiler : Compiler := { bare with metadata := metadata.provider }
    let query : Query :=
      { sourceTable := .number 1, aggregations := [.metric (.name "ga:hits")]
        breakout := [.plain (.id 2), .bucketed (.id 7) .month]
        filter := some (.junction .and
          [.condition (.comparison .equal (.plain (.id 2)) (.literal (.text "Chile") none)),
            .condition (.comparison .greater (.bucketed (.id 8) .day) (.relative (-8) .day))])
        orders := [⟨.descending, .field (.bucketed (.id 9) .day)⟩], limit := none }
    compiler.metadata.AgreesOn larger.provider query ∧
      { compiler with metadata := larger.provider }.compile query = compiler.compile query ∧
      { compiler with metadata := (metadata.restrictedTo query).provider }.compile query =
        compiler.compile query ∧
      larger.provider.Extends compiler.metadata ∧
      ∃ parameters, compiler.compile query = .ok parameters ∧
        { compiler with metadata := larger.provider }.compile query = .ok parameters := by
  intro metadata larger compiler query
  have hlarger : larger.provider.Extends compiler.metadata :=
    Metadata.extends_of_subset (by decide) (by decide) (by decide) (by decide)
  have hagrees : compiler.metadata.AgreesOn larger.provider query := ⟨rfl, by decide⟩
  obtain ⟨hsame, hrestricted, hextended⟩ := compile_of_agreeing_names compiler query
  exact ⟨hagrees, hsame _ hagrees, hrestricted metadata rfl, hlarger, _, rfl,
    hextended _ _ hlarger rfl⟩

end Compiler

end AnalyticsQuery
