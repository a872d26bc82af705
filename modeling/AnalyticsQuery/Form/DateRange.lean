import AnalyticsQuery.DateRange
import AnalyticsQuery.Reading.Attributes
import AnalyticsQuery.Reading.Record
import AnalyticsQuery.Reading.Scalar

/-!
# Document form of date ranges
-/

namespace AnalyticsQuery.DateRange

def firstLabel : Label := ⟨"start-date", "start"⟩

def lastLabel : Label := ⟨"end-date", "end"⟩

def readBound : Document → Reading (Option String) := Reading.nullable Reading.string

def read (document : Document) : Reading DateRange :=
  (Reading.record document).andThen fun entries =>
    (DateRange.mk <$> firstLabel.optional entries none readBound
      <*> lastLabel.optional entries none readBound).sealed [firstLabel, lastLabel] entries

def toDocument (range : DateRange) : Document :=
  .record (Document.dropNulls
    [("start-date", range.first.elim .null .text), ("end-date", range.last.elim .null .text)])

/-- The attributes of a range to which nothing was added. -/
def attributes (range : DateRange) : Attributes :=
  ⟨Document.entriesOf [("start", range.first.elim .null .text),
    ("end", range.last.elim .null .text)]⟩

/-- What a document shows of attributes: the bounds among them that are not null. -/
def shown (attributes : Attributes) : Document :=
  .record (Document.dropNulls
    [(firstLabel.wire, (attributes.find? firstLabel.plain).getD .null),
      (lastLabel.wire, (attributes.find? lastLabel.plain).getD .null)])

/-- Names of what follows from the bounds. -/
def computedNames : List String := ["is_empty", "model_fields_set", "model_extra"]

/-- What is stored when a value is assigned to a bound. -/
def checkBound (name : String) (value : Document) : Reading Document :=
  if name = firstLabel.plain ∨ name = lastLabel.plain then
    (fun bound => bound.elim .null .text) <$> (readBound value).under name
  else Reading.noPart computedNames name

/-- Assigns to an attribute by its name. -/
def assign (attributes : Attributes) (name : String) (value : Document) : Reading Attributes :=
  attributes.assign checkBound name value

end AnalyticsQuery.DateRange
