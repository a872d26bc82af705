import AnalyticsQuery.Proofs.Filter.Tree

/-!
# The units of a filter

Normalizing changes the units of a filter and nothing else.  The unit of a field or an
operand decides neither whether a condition belongs to the date range nor whether it is
a segment.
-/

namespace AnalyticsQuery

open Calendar (CalendarUnit)

namespace Calendar

@[simp]
theorem CalendarUnit.normalize_normalize (unit : CalendarUnit) :
    unit.normalize.normalize = unit.normalize := by
  cases unit <;> rfl

theorem CalendarUnit.normalize_ne_default (unit : CalendarUnit) : unit.normalize ≠ .default := by
  cases unit <;> decide

end Calendar

/-! ## Other units in their place -/

def Field.mapUnit (f : CalendarUnit → CalendarUnit) : Field → Field
  | plain field => plain field
  | bucketed field unit => bucketed field (f unit)

def Operand.mapUnit (f : CalendarUnit → CalendarUnit) : Operand → Operand
  | literal value typeInfo => literal value typeInfo
  | relative amount unit => relative amount (f unit)
  | absolute timestamp unit => absolute timestamp (f unit)

/-- The unit that buckets a field, if it is bucketed. -/
def Field.unit? : Field → Option CalendarUnit
  | plain _ => none
  | bucketed _ unit => some unit

/-- The unit of a moment; a constant has none. -/
def Operand.unit? : Operand → Option CalendarUnit
  | literal _ _ => none
  | relative _ unit => some unit
  | absolute _ unit => some unit

theorem Field.unit?_mapUnit (f : CalendarUnit → CalendarUnit) (field : Field) :
    (field.mapUnit f).unit? = field.unit?.map f := by
  cases field <;> rfl

theorem Operand.unit?_mapUnit (f : CalendarUnit → CalendarUnit) (operand : Operand) :
    (operand.mapUnit f).unit? = operand.unit?.map f := by
  cases operand <;> rfl

namespace Condition

def mapUnits (f : CalendarUnit → CalendarUnit) : Condition → Condition
  | comparison operator field value => comparison operator (field.mapUnit f) (value.mapUnit f)
  | between field lower upper => between (field.mapUnit f) (lower.mapUnit f) (upper.mapUnit f)
  | textMatch operator field value caseSensitive =>
      textMatch operator (field.mapUnit f) (value.mapUnit f) caseSensitive
  | segment id => segment id

/-- Units of the field and of the operands of a condition. -/
def units : Condition → List CalendarUnit
  | comparison _ field value => field.unit?.toList ++ value.unit?.toList
  | between field lower upper => field.unit?.toList ++ (lower.unit?.toList ++ upper.unit?.toList)
  | textMatch _ field value _ => field.unit?.toList ++ value.unit?.toList
  | segment _ => []

theorem normalizeUnits_eq_mapUnits : normalizeUnits = mapUnits CalendarUnit.normalize := by
  have hfield : ∀ field : Field, field.normalizeUnit = field.mapUnit CalendarUnit.normalize :=
    fun field => by cases field <;> rfl
  have hoperand : ∀ operand : Operand,
      operand.normalizeUnit = operand.mapUnit CalendarUnit.normalize :=
    fun operand => by cases operand <;> rfl
  funext leaf
  cases leaf <;> simp only [normalizeUnits, mapUnits, hfield, hoperand]

theorem mapUnits_comp_mapUnits (f g : CalendarUnit → CalendarUnit) :
    mapUnits g ∘ mapUnits f = mapUnits (g ∘ f) := by
  have hfield : ∀ field : Field, (field.mapUnit f).mapUnit g = field.mapUnit (g ∘ f) :=
    fun field => by cases field <;> rfl
  have hoperand : ∀ operand : Operand, (operand.mapUnit f).mapUnit g = operand.mapUnit (g ∘ f) :=
    fun operand => by cases operand <;> rfl
  funext leaf
  cases leaf <;> simp only [Function.comp_apply, mapUnits, hfield, hoperand]

theorem units_mapUnits (f : CalendarUnit → CalendarUnit) (leaf : Condition) :
    (leaf.mapUnits f).units = leaf.units.map f := by
  cases leaf <;>
    simp only [mapUnits, units, Field.unit?_mapUnit, Operand.unit?_mapUnit, Option.toList_map,
      List.map_append, List.map_nil]

end Condition

namespace Filter

def mapUnits (f : CalendarUnit → CalendarUnit) : Filter → Filter :=
  mapConditions (Condition.mapUnits f)

/-- Units of all fields and operands of a filter, in their order. -/
def units (filter : Filter) : List CalendarUnit := filter.leaves.flatMap Condition.units

theorem normalizeUnits_eq_mapUnits (filter : Filter) :
    filter.normalizeUnits = filter.mapUnits CalendarUnit.normalize := by
  rw [normalizeUnits, Condition.normalizeUnits_eq_mapUnits, mapUnits]

theorem mapUnits_mapUnits (f g : CalendarUnit → CalendarUnit) (filter : Filter) :
    (filter.mapUnits f).mapUnits g = filter.mapUnits (g ∘ f) := by
  rw [mapUnits, mapUnits, mapConditions_mapConditions, Condition.mapUnits_comp_mapUnits, mapUnits]

theorem units_mapUnits (f : CalendarUnit → CalendarUnit) (filter : Filter) :
    (filter.mapUnits f).units = filter.units.map f := by
  rw [units, mapUnits, leaves_mapConditions, List.flatMap_map, units, List.map_flatMap]
  simp only [Condition.units_mapUnits]

/-- Filters that differ in their units only, of which the second has no default one. -/
structure NormalizesTo (filter normalized : Filter) : Prop where
  /-- The two are the same with any one unit in the place of all. -/
  besidesUnits : ∀ unit, normalized.mapUnits (fun _ => unit) = filter.mapUnits fun _ => unit
  /-- Days stand for the default unit; the other units are kept. -/
  units : normalized.units = filter.units.map CalendarUnit.normalize
  noDefault : .default ∉ normalized.units
  fixed : normalized.normalizeUnits = normalized

theorem normalizeUnits_normalizeUnits (filter : Filter) :
    filter.normalizeUnits.normalizeUnits = filter.normalizeUnits := by
  have hnormalize : CalendarUnit.normalize ∘ CalendarUnit.normalize = CalendarUnit.normalize := by
    funext unit
    exact unit.normalize_normalize
  simp only [normalizeUnits_eq_mapUnits, mapUnits_mapUnits, hnormalize]

theorem normalizesTo_normalizeUnits (filter : Filter) :
    filter.NormalizesTo filter.normalizeUnits := by
  have hunits : filter.normalizeUnits.units = filter.units.map CalendarUnit.normalize := by
    rw [normalizeUnits_eq_mapUnits, units_mapUnits]
  constructor
  case besidesUnits =>
    intro unit
    rw [normalizeUnits_eq_mapUnits, mapUnits_mapUnits]
    rfl
  case units => exact hunits
  case noDefault =>
    rw [hunits, List.mem_map]
    rintro ⟨unit, _, hdefault⟩
    exact unit.normalize_ne_default hdefault
  case fixed => exact normalizeUnits_normalizeUnits filter

end Filter

/-! ## What does not depend on units -/

@[simp]
theorem Field.isBucketed_normalizeUnit (field : Field) :
    field.normalizeUnit.isBucketed = field.isBucketed := by
  cases field <;> rfl

namespace Condition

@[simp]
theorem onBucketedField_normalizeUnits (leaf : Condition) :
    leaf.normalizeUnits.onBucketedField = leaf.onBucketedField := by
  cases leaf <;> simp [normalizeUnits, onBucketedField, field?]

@[simp]
theorem isDateRange_normalizeUnits (leaf : Condition) :
    leaf.normalizeUnits.isDateRange = leaf.isDateRange := by
  unfold isDateRange
  rw [onBucketedField_normalizeUnits]
  cases leaf <;> rfl

@[simp]
theorem isDropped_normalizeUnits (leaf : Condition) :
    leaf.normalizeUnits.isDropped = leaf.isDropped := by
  simp [isDropped]

@[simp]
theorem isBuiltinSegment_normalizeUnits (leaf : Condition) :
    leaf.normalizeUnits.isBuiltinSegment = leaf.isBuiltinSegment := by
  cases leaf <;> rfl

end Condition

namespace Filter

theorem leaves_normalizeUnits (filter : Filter) :
    filter.normalizeUnits.leaves = filter.leaves.map Condition.normalizeUnits :=
  leaves_mapConditions Condition.normalizeUnits filter

/-- The halves of a filter are those of the normalized one, up to their units. -/
theorem textHalf_normalizeUnits (filter : Filter) :
    filter.normalizeUnits.textHalf = filter.textHalf.map normalizeUnits := by
  have hdrop : (fun leaf : Condition => leaf.onBucketedField || leaf.isBuiltinSegment) ∘
      Condition.normalizeUnits = fun leaf => leaf.onBucketedField || leaf.isBuiltinSegment := by
    funext leaf
    simp only [Function.comp_apply, Condition.onBucketedField_normalizeUnits,
      Condition.isBuiltinSegment_normalizeUnits]
  rw [textHalf, normalizeUnits, prune_mapConditions, hdrop]

theorem dateHalf_normalizeUnits (filter : Filter) :
    filter.normalizeUnits.dateHalf = filter.dateHalf.map normalizeUnits := by
  have hdrop : (fun leaf : Condition => !leaf.isDateRange) ∘ Condition.normalizeUnits =
      fun leaf => !leaf.isDateRange := by
    funext leaf
    rw [Function.comp_apply, Condition.isDateRange_normalizeUnits]
  rw [dateHalf, normalizeUnits, prune_mapConditions, hdrop]

end Filter

end AnalyticsQuery
