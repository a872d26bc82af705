import AnalyticsQuery.Binary64.Shortest
import AnalyticsQuery.Document.Basic
import AnalyticsQuery.Text.Quoted

/-!
# Text of a document

`displayText` is how a literal value appears in a filter.  `quotedText` is how it
appears inside a list, an object or an error message: texts are quoted there, and
dates and times name their parts.
-/

namespace AnalyticsQuery.Document

open Calendar (Timestamp WallTime offsetText)

/-- Parts of a time: seconds and microseconds only from the last that is not zero. -/
def timeParts (time : WallTime) : List Int :=
  let date := time.date
  let minutes := [date.year, date.month, date.dayOfMonth, time.hour, time.minute]
  if time.microsecond ≠ 0 then minutes ++ [time.second, time.microsecond]
  else if time.second ≠ 0 then minutes ++ [time.second]
  else minutes

/-- An offset as a time zone; a negative one counts back from a whole day. -/
def offsetParts (offset : Int) : String :=
  if offset = 0 then "datetime.timezone.utc"
  else
    let parts := [("days", offset / 86400000000), ("seconds", offset / 1000000 % 86400),
      ("microseconds", offset % 1000000)].filter fun part => part.2 ≠ 0
    "datetime.timezone(datetime.timedelta(" ++
      ", ".intercalate (parts.map fun part => part.1 ++ "=" ++ Numeral.intText part.2) ++ "))"

def timestampParts : Timestamp → String
  | .day date =>
      let parts := [date.year, date.month, date.dayOfMonth].map Numeral.intText
      "datetime.date(" ++ ", ".intercalate parts ++ ")"
  | .naive time =>
      "datetime.datetime(" ++ ", ".intercalate ((timeParts time).map Numeral.intText) ++ ")"
  | .zoned moment =>
      "datetime.datetime(" ++ ", ".intercalate ((timeParts moment.time).map Numeral.intText) ++
        ", tzinfo=" ++ offsetParts moment.offset ++ ")"

mutual

def quotedText : Document → String
  | .null => "None"
  | .bool true => "True"
  | .bool false => "False"
  | .int value => Numeral.intText value
  | .float value => value.text
  | .text value => Text.quoted value
  | .timestamp value => timestampParts value
  | .list items => "[" ++ ", ".intercalate (quotedItems items) ++ "]"
  | .object entries =>
      "\x7b" ++ ", ".intercalate (quotedEntries entries) ++ "\x7d"

def quotedItems : List Document → List String
  | [] => []
  | item :: items => quotedText item :: quotedItems items

def quotedEntries : List (Document × Document) → List String
  | [] => []
  | (key, value) :: entries =>
      (quotedText key ++ ": " ++ quotedText value) :: quotedEntries entries

end

mutual

/-- Whether there is a number in a document that is too long to be written. -/
def hasLongNumber : Document → Bool
  | .int value => Numeral.isLong value
  | .list items => anyLongNumber items
  | .object entries => anyLongEntry entries
  | _ => false

def anyLongNumber : List Document → Bool
  | [] => false
  | item :: items => hasLongNumber item || anyLongNumber items

def anyLongEntry : List (Document × Document) → Bool
  | [] => false
  | (key, value) :: entries => hasLongNumber key || hasLongNumber value || anyLongEntry entries

end

/-- A literal value as filter text; null is the empty text. -/
def displayText : Document → String
  | .null => ""
  | .bool true => "true"
  | .bool false => "false"
  | .int value => Numeral.intText value
  | .float value => value.text
  | .text value => value
  | .timestamp value => value.isoText " "
  | .list items => quotedText (.list items)
  | .object entries => quotedText (.object entries)

/-- The filter text of a literal value whose numbers can be written. -/
def displayText? (value : Document) : Option String :=
  if value.hasLongNumber then none else some value.displayText

end AnalyticsQuery.Document
