import AnalyticsQuery.Config
import AnalyticsQuery.Reading.Attributes
import AnalyticsQuery.Reading.Record
import AnalyticsQuery.Reading.Scalar

/-!
# Document form of settings

A setting is read the same way whether a whole configuration is read or the one setting is
assigned.  A configuration that is changed by assignments is kept as its attributes; as long
as these hold a value of its own kind for every setting, they are settings to compile by.
-/

namespace AnalyticsQuery

inductive Setting where
  | earliestDate
  | latestDate
  | maxResults
  | tablePrefix
  | zone
  | includeEmptyRows
  deriving DecidableEq, Repr

namespace Setting

open Calendar (ZoneDatabase)

def all : List Setting :=
  [earliestDate, latestDate, maxResults, tablePrefix, zone, includeEmptyRows]

def name : Setting → String
  | earliestDate => "earliest_date"
  | latestDate => "latest_date"
  | maxResults => "max_results"
  | tablePrefix => "namespace"
  | zone => "report_timezone"
  | includeEmptyRows => "include_empty_rows"

def ofName? (name : String) : Option Setting := all.find? (·.name = name)

def label (setting : Setting) : Label := .same setting.name

/-- The text of an existing date, in any of the accepted forms; it is kept as written. -/
def readDate (document : Document) : Reading String :=
  (Reading.string document).andThen fun text =>
    match Calendar.Iso.readDate text with
    | .ok _ => .ok text
    | .error error => Reading.reject (.valueError (.date text error))

def readPositive (document : Document) : Reading Int :=
  (Reading.int document).andThen fun value =>
    if 0 < value then .ok value else Reading.reject .greaterThan

def readZone (zones : ZoneDatabase) (document : Document) : Reading Calendar.Zone :=
  (Reading.string document).andThen fun name =>
    match zones.zone? name with
    | some known => .ok known
    | none => Reading.reject (.valueError (.unknownZone name))

/-- Reads a value for a setting, as the change that it makes. -/
def read (zones : ZoneDatabase) (setting : Setting) (document : Document) :
    Reading (Config → Config) :=
  match setting with
  | earliestDate =>
      (readDate document).map fun value config => { config with earliestDate := value }
  | latestDate =>
      (Reading.string document).map fun value config => { config with latestDate := value }
  | maxResults =>
      (readPositive document).map fun value config => { config with maxResults := value }
  | tablePrefix =>
      (Reading.string document).map fun value config => { config with tablePrefix := value }
  | zone => (readZone zones document).map fun value config => { config with zone := value }
  | includeEmptyRows =>
      (Reading.bool document).map fun value config => { config with includeEmptyRows := value }

def toDocument (setting : Setting) (config : Config) : Document :=
  match setting with
  | earliestDate => .text config.earliestDate
  | latestDate => .text config.latestDate
  | maxResults => .int config.maxResults
  | tablePrefix => .text config.tablePrefix
  | zone => .text config.zone.name
  | includeEmptyRows => .bool config.includeEmptyRows

/-- The change that a stored value stands for, if it is of the kind of the setting. -/
def ofStored? (zones : ZoneDatabase) (setting : Setting) (stored : Document) :
    Option (Config → Config) :=
  match setting, stored with
  | earliestDate, .text value => some fun config => { config with earliestDate := value }
  | latestDate, .text value => some fun config => { config with latestDate := value }
  | maxResults, .int value => some fun config => { config with maxResults := value }
  | tablePrefix, .text value => some fun config => { config with tablePrefix := value }
  | zone, .text name =>
      (zones.zone? name).map fun known config => { config with zone := known }
  | includeEmptyRows, .bool value =>
      some fun config => { config with includeEmptyRows := value }
  | _, _ => none

end Setting

namespace Config

open Calendar (ZoneDatabase)

variable (zones : ZoneDatabase)

/-- The changes that the entries make to the given settings, in order. -/
def readSettings (entries : Document.Entries) : List Setting → Reading (Config → Config)
  | [] => .ok id
  | setting :: settings =>
      (fun change changes config => changes (change config)) <$>
        setting.label.optional entries id (setting.read zones)
        <*> readSettings entries settings

def read (document : Document) : Reading Config :=
  (Reading.record document).andThen fun entries =>
    ((fun change => change {}) <$> readSettings zones entries Setting.all).sealed
      (Setting.all.map Setting.label) entries

def toDocument (config : Config) : Document :=
  .record (Setting.all.map fun setting => (setting.name, setting.toDocument config))

/-! ## Settings as attributes -/

/-- The attributes of a configuration to which nothing was added. -/
def attributes (config : Config) : Attributes :=
  ⟨Document.entriesOf (Setting.all.map fun setting => (setting.name, setting.toDocument config))⟩

/-- Stored values as settings, if every setting has one of its own kind. -/
def ofAttributes? (attributes : Attributes) : Option Config :=
  Setting.all.foldlM
    (fun config setting => do
      let stored ← attributes.find? setting.name
      let change ← setting.ofStored? zones stored
      return change config)
    {}

/-- What a document shows of attributes: the settings among them that are not null. -/
def shown (attributes : Attributes) : Document :=
  .object (attributes.entries.filter fun entry =>
    Setting.all.any (fun setting => entry.1.isNamed setting.name) && decide (entry.2 ≠ .null))

/-- Names of what follows from the settings. -/
def computedNames : List String := ["tz", "model_fields_set", "model_extra"]

/-- What is stored when a value is assigned to a setting. -/
def checkSetting (name : String) (value : Document) : Reading Document :=
  match Setting.ofName? name with
  | some setting =>
      ((setting.read zones value).under name).map fun change => setting.toDocument (change {})
  | none => Reading.noPart computedNames name

/-- Assigns to an attribute by its name. -/
def assign (attributes : Attributes) (name : String) (value : Document) : Reading Attributes :=
  attributes.assign (checkSetting zones) name value

end Config

end AnalyticsQuery
