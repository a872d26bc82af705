import AnalyticsQuery.Proofs.Dictionary
import AnalyticsQuery.Proofs.Form.Settings

/-!
# Settings as attributes

An accepted value for a setting keeps the attributes of a configuration those of valid
settings.  Notes under names of nobody's, which start with an underscore, are kept beside
them.  Only all attributes at once can be replaced by some that are those of no settings.
-/

namespace AnalyticsQuery

open Calendar (ZoneDatabase)

variable {zones : ZoneDatabase} {attributes next : Attributes} {config : Config}
  {names : List String} {name : String} {value : Document}

/-! ## Names -/

namespace AttributeTarget

end AttributeTarget

namespace Config

/-- The attributes after an assignment; one that is not accepted changes nothing. -/
def assigned (zones : ZoneDatabase) (attributes : Attributes) (name : String)
    (value : Document) : Attributes :=
  match assign zones attributes name value with
  | .ok next => next
  | _ => attributes

def assignEach (zones : ZoneDatabase) (attributes : Attributes)
    (assignments : List (String × Document)) : Attributes :=
  assignments.foldl (fun attributes assignment =>
    assigned zones attributes assignment.1 assignment.2) attributes

end Config

end AnalyticsQuery
