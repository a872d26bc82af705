import AnalyticsQuery.Calendar.Zone

/-!
# Names of time zones

The name of a zone is the path of its rules below a directory of zones.  A name
that is no such path is refused for its form, whether there is a zone or not.
-/

namespace AnalyticsQuery.Calendar

/-- Why a name names no zone. -/
inductive ZoneNameError where
  /-- The path starts at the root. -/
  | absolute
  /-- The path is longer than it needs to be. -/
  | roundabout
  /-- The path leaves the directory of zones, or ends at it. -/
  | outside
  | unknown
  deriving DecidableEq, Repr

/-- Goes one step along a path, given the steps so far with the last one first. -/
def takeStep (steps : List (List Char)) (step : List Char) : List (List Char) :=
  if step = [] ∨ step = ['.'] then steps
  else if step = ['.', '.'] then
    match steps with
    | [] => [step]
    | last :: before => if last = ['.', '.'] then step :: steps else before
  else step :: steps

/-- The shortest form of a path that does not start at the root. -/
def shortestPath (path : List Char) : List Char :=
  match (path.splitOn '/').foldl takeStep [] with
  | [] => ['.']
  | steps => ['/'].intercalate steps.reverse

def ZoneNameError.ofName (name : String) : ZoneNameError :=
  let path := name.toList
  if path.head? = some '/' then .absolute
  else if (shortestPath path).length ≠ path.length then .roundabout
  else if ['_', '/'].isPrefixOf (shortestPath ('_' :: '/' :: path)) then .unknown
  else .outside

def ZoneNameError.message (name : String) : ZoneNameError → String
  | absolute => "ZoneInfo keys may not be absolute paths, got: " ++ name
  | roundabout => "ZoneInfo keys must be normalized relative paths, got: " ++ name
  | outside => "ZoneInfo keys must refer to subdirectories of TZPATH, got: " ++ name
  | unknown => "No time zone found with key " ++ name

/-- The zone with a name, or what is wrong with the name. -/
def ZoneDatabase.zoneNamed (zones : ZoneDatabase) (name : String) : Except ZoneNameError Zone :=
  match zones.zone? name with
  | some zone => .ok zone
  | none => .error (ZoneNameError.ofName name)

end AnalyticsQuery.Calendar
