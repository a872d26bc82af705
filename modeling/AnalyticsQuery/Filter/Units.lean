import AnalyticsQuery.Query.Filter

/-!
# Normalizing units

Replaces the default unit by days in every field and operand of a filter.
-/

namespace AnalyticsQuery

def Field.normalizeUnit : Field → Field
  | plain field => plain field
  | bucketed field unit => bucketed field unit.normalize

def Operand.normalizeUnit : Operand → Operand
  | literal value typeInfo => literal value typeInfo
  | relative amount unit => relative amount unit.normalize
  | absolute timestamp unit => absolute timestamp unit.normalize

def Condition.normalizeUnits : Condition → Condition
  | comparison operator field value =>
      comparison operator field.normalizeUnit value.normalizeUnit
  | between field lower upper =>
      between field.normalizeUnit lower.normalizeUnit upper.normalizeUnit
  | textMatch operator field value caseSensitive =>
      textMatch operator field.normalizeUnit value.normalizeUnit caseSensitive
  | segment id => segment id

namespace Filter

mutual

/-- Replaces every condition and keeps the tree. -/
def mapConditions (f : Condition → Condition) : Filter → Filter
  | condition leaf => condition (f leaf)
  | junction operator children => junction operator (mapEach f children)
  | negation child => negation (mapConditions f child)

def mapEach (f : Condition → Condition) : List Filter → List Filter
  | [] => []
  | child :: children => mapConditions f child :: mapEach f children

end

def normalizeUnits : Filter → Filter := mapConditions Condition.normalizeUnits

end Filter

end AnalyticsQuery
