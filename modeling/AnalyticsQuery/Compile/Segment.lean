import AnalyticsQuery.Compile.Error
import AnalyticsQuery.Query.Filter

/-!
# The segment of a filter

Built-in segments have a parameter of their own, which takes one at most.
-/

namespace AnalyticsQuery.Filter

def segmentIds (filter : Filter) : List Identifier :=
  filter.leaves.filterMap fun leaf => match leaf with
    | .segment id => some id
    | _ => none

def builtinSegments (filter : Filter) : List String :=
  (filter.segmentIds.filter Identifier.isBuiltinSegment).filterMap Identifier.name?

/-- The built-in segment of an optional filter, if there is one. -/
def segment (filter : Option Filter) : Except CompileError (Option String) :=
  match filter.elim [] builtinSegments with
  | [] => .ok none
  | [name] => .ok (some name)
  | names => .error (.multipleSegments names)

end AnalyticsQuery.Filter
