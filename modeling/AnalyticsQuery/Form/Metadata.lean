import AnalyticsQuery.Document.Key
import AnalyticsQuery.Form.Field
import AnalyticsQuery.Metadata
import AnalyticsQuery.Reading.Record

/-!
# Document form of metadata

Each dictionary is given as the entries of an object.  Entries whose keys are equal
as values, such as `1` and `1.0`, are one entry even before the keys are read.
-/

namespace AnalyticsQuery.Metadata

open Document (Entries distinctEntries isKey keyNumber? keyStep)

/-- Reads every key and every value; the last value given for a key counts. -/
def readDictionary {Key : Type} [DecidableEq Key] (readKey : Document → Reading Key)
    (entries : Entries) : Reading (List (Key × String)) :=
  let readings := (distinctEntries entries).map fun (key, value) =>
    Prod.mk <$> ((readKey key).under "[key]").under (keyStep key)
      <*> (Reading.string value).under (keyStep key)
  dictionaryOf <$> readings.foldr (fun entry rest => (· :: ·) <$> entry <*> rest) (.ok [])

def tablesLabel : Label := .same "table_names"

def fieldsLabel : Label := .same "field_names"

def tablesOf : Entries → Reading (List (Identifier × String)) :=
  readDictionary Identifier.readNumberFirst

def fieldsOf : Entries → Reading (List (Int × String)) := readDictionary Reading.int

/-- Lists and objects are no keys. -/
def checkKeys (entries : Entries) : Reading Unit :=
  if entries.all fun entry => isKey entry.1 then .ok () else .broken .wrongType

def readTables (entries : Entries) : Reading (List (Identifier × String)) :=
  (checkKeys entries).andThen fun _ => (tablesOf entries).under tablesLabel.wire

def readFields (entries : Entries) : Reading (List (Int × String)) :=
  (checkKeys entries).andThen fun _ => (fieldsOf entries).under fieldsLabel.wire

/-- Unusable keys are noticed before anything is read. -/
def read (tables fields : Entries) : Reading Metadata :=
  (checkKeys (tables ++ fields)).andThen fun _ =>
    Metadata.mk <$> (tablesOf tables).under tablesLabel.wire
      <*> (fieldsOf fields).under fieldsLabel.wire

def dictionaryEntries : Document → Reading Entries
  | .object entries => .ok entries
  | _ => Reading.reject .dictType

/-- Both dictionaries as parts of one document; either may be left out. -/
def readDocument (document : Document) : Reading Metadata :=
  (Reading.record document).andThen fun entries =>
    (Metadata.mk <$> tablesLabel.optional entries []
        (fun tables => (dictionaryEntries tables).andThen tablesOf)
      <*> fieldsLabel.optional entries []
        (fun fields => (dictionaryEntries fields).andThen fieldsOf)).sealed
      [tablesLabel, fieldsLabel] entries

/-! ## Lookups by any document -/

/-- Why a document that is used as an identifier has no name. -/
inductive LookupError where
  | unresolved (kind : ReferenceKind) (key : Document)
  /-- There is no name, and the key is too long to be shown. -/
  | longKey
  /-- Lists and objects are no keys. -/
  | unusableKey
  deriving DecidableEq

def LookupError.message : LookupError → String
  | unresolved kind key => kind.unresolvedMessage key.quotedText
  | longKey => Numeral.longMessage
  | unusableKey => "lists and objects are no keys"

/-- The name under a key, given the names under texts and numbers. -/
def lookUp (kind : ReferenceKind) (ofName? : String → Option String)
    (ofNumber? : Int → Option String) (key : Document) : Except LookupError String :=
  if isKey key then
    let found := match key with
      | .text value => ofName? value
      | key => (keyNumber? key).bind ofNumber?
    match found with
    | some name => .ok name
    | none => .error (if key.hasLongNumber then .longKey else .unresolved kind key)
  else .error .unusableKey

def lookUpTable (metadata : Metadata) : Document → Except LookupError String :=
  lookUp .table (fun name => metadata.tableName? (.name name))
    fun number => metadata.tableName? (.number number)

def lookUpField (metadata : Metadata) : Document → Except LookupError String :=
  lookUp .field (fun _ => none) metadata.fieldName?

/-- Identifiers become the keys of objects. -/
def toDocument (metadata : Metadata) : Document :=
  .record
    [("table_names", .record (metadata.tables.map fun (table, name) =>
        (match table with
          | .number value => Numeral.intText value
          | .name value => value, .text name))),
      ("field_names", .record (metadata.fields.map fun (field, name) =>
        (Numeral.intText field, .text name)))]

end AnalyticsQuery.Metadata
