import AnalyticsQuery.Document.Basic
import AnalyticsQuery.Text.Base64
import AnalyticsQuery.Yaml.Number

/-!
# Values of YAML scalars

The value of a text as a scalar of some kind.  A tag can claim a kind for any text,
which then may have no value of that kind.
-/

namespace AnalyticsQuery.Yaml

open Calendar (Timestamp WallTime)

/-! ## Dates and times -/

/-- An offset of less than a day. -/
def checkOffset (offset : Option Int) : Except ScalarError Unit :=
  match offset with
  | some minutes => if 1440 ≤ minutes.natAbs then .error (.offset minutes) else .ok ()
  | none => .ok ()

def ClockNumbers.check (clock : ClockNumbers) : Except ScalarError Unit :=
  if 23 < clock.hour then .error .hour
  else if 59 < clock.minute then .error .minute
  else if 59 < clock.second then .error .second
  else .ok ()

/-- The time of day on a date. -/
def ClockNumbers.on (clock : ClockNumbers) (date : Calendar.Date) :
    Except ScalarError Timestamp := do
  clock.check
  let seconds : Int := 60 * (60 * clock.hour + clock.minute) + clock.second
  match (WallTime.midnight date).shift (1000000 * seconds + clock.microsecond) with
  | .error _ => .error .hour
  | .ok time =>
      return match clock.offset with
        | none => .naive time
        | some minutes => .zoned ⟨time, minutes * Calendar.microsecondsPerMinute⟩

/-- The timestamp, if there are such an offset, such a date and such a time of day. -/
def DateNumbers.timestamp (numbers : DateNumbers) : Except ScalarError Timestamp := do
  checkOffset (numbers.clock.bind (·.offset))
  let date ←
    (Calendar.Date.ofFields numbers.year numbers.month numbers.dayOfMonth).mapError .date
  match numbers.clock with
  | none => return .day date
  | some clock => clock.on date

def readTimestamp (chars : List Char) : Except ScalarError Timestamp :=
  match readDateNumbers? chars with
  | some numbers => numbers.timestamp
  | none => .error .noTimestamp

/-! ## All kinds -/

def trueWords : List String := ["yes", "true", "on"]

def falseWords : List String := ["no", "false", "off"]

def readBool (chars : List Char) : Except ScalarError Bool :=
  let word := String.ofList (chars.map Char.toLower)
  if word ∈ trueWords then .ok true
  else if word ∈ falseWords then .ok false
  else .error .noTruthValue

/-- The value of a text as a scalar of a kind.  Other kinds have no scalars. -/
def Tag.value (tag : Tag) (text : String) : Except ReadError Document :=
  let chars := text.toList
  match tag with
  | .null => .ok .null
  | .bool => ((readBool chars).map .bool).mapError .scalar
  | .int => ((readInt chars).map .int).mapError .scalar
  | .float => ((readFloat chars).map .float).mapError .scalar
  | .timestamp => ((readTimestamp chars).map .timestamp).mapError .scalar
  | .text => .ok (.text text)
  | .binary =>
      match Text.Base64.decode? chars with
      | some text => .ok (.text text)
      | none => .error .construction
  | .sequence => .error .construction
  | .mapping => .error .construction
  | .set => .error .construction
  | .pairs => .error .construction
  | .merge => .error .construction
  | .default => .error .construction
  | .unknown => .error .construction

end AnalyticsQuery.Yaml
