import AnalyticsQuery.Reading.Basic

/-!
# Reading timestamps

A timestamp is given as such, as the text of a date with or without a time of
day, or as a number, or the text of one, that counts from the start of 1970 in
universal time.  Numbers count seconds, or milliseconds when they are large.
-/

namespace AnalyticsQuery.Reading

open Calendar

/-- Above this size a number counts milliseconds. -/
def largestSecondCount : Int := 20000000000

def epochDay : Int := yearStart 1970

/-- What a count of microseconds from the start of 1970 stands for, in years 0 to 9999. -/
def ofEpoch (microseconds : Int) : Option Iso.Reading :=
  let fromFirstDay := epochDay * microsecondsPerDay + microseconds
  match WallTime.ofMicroseconds fromFirstDay with
  | .ok time => some (.timestamp (.zoned ⟨time, 0⟩))
  | .error _ =>
      if yearStart 0 * microsecondsPerDay ≤ fromFirstDay ∧ fromFirstDay < 0 then
        some (.yearZero (fromFirstDay % microsecondsPerDay = 0))
      else none

def ofCount (count : Int) : Option Iso.Reading :=
  if (count.natAbs : Int) ≤ largestSecondCount then ofEpoch (1000000 * count)
  else ofEpoch (1000 * count)

/-! ## Fractions

A fraction of a second is computed with floating-point numbers.  A number that is
not negative is a quotient here, so that every rounding shows as a call of
`rounded`.  A fraction of a millisecond is small enough to be exact. -/

/-- The floating-point number nearest to a quotient, as a quotient. -/
def rounded (quotient : Nat × Nat) : Nat × Nat :=
  (Binary64.ofRatio false quotient.1 quotient.2).ratio

/-- Nearest whole number to a quotient; a half goes up. -/
def roundHalfUp (numerator : Int) (denominator : Nat) : Int :=
  (2 * numerator + denominator) / (2 * denominator)

/-- Microseconds in a number of seconds.  Whole seconds are counted down to the next
smaller number, to which the rest is added. -/
def secondsToMicroseconds (numerator : Int) (denominator : Nat) : Int :=
  let floor := numerator / denominator
  let rest := rounded ((numerator - floor * denominator).toNat, denominator)
  let product := rounded (1000000 * rest.1, rest.2)
  1000000 * floor + roundHalfUp product.1 product.2

def ofFloatCount (value : Binary64) : Option Iso.Reading :=
  if value.isFinite then
    let (size, denominator) := value.ratio
    let numerator := Numeral.signed value.isNegative size
    if (size : Int) ≤ largestSecondCount * denominator then
      ofEpoch (secondsToMicroseconds numerator denominator)
    else ofEpoch (roundHalfUp (1000 * numerator) denominator)
  else none

/-! ## Numbers as texts -/

/-- The power of ten after a number with decimal places: nothing, or a mark, an
optional sign and digits. -/
def readPower? : List Char → Option Int
  | [] => some 0
  | mark :: rest =>
      if mark = 'e' ∨ mark = 'E' then
        let (negative, digits) := Numeral.splitSign rest
        (Numeral.readDigits? digits).map (Numeral.signed negative)
      else none

/-- Digits with an optional sign; a number with decimal places may leave out the
digits on one side of the point and may have a power of ten. -/
def ofNumeral? (chars : List Char) : Option Iso.Reading := do
  let (negative, body) := Numeral.splitSign chars
  let whole := body.takeWhile Numeral.isDigit
  match body.dropWhile Numeral.isDigit with
  | [] => ofCount (Numeral.signed negative (← Numeral.readDigits? whole))
  | '.' :: rest =>
      let places := rest.takeWhile Numeral.isDigit
      let significand ← Numeral.readDigits? (whole ++ places)
      let power ← readPower? (rest.dropWhile Numeral.isDigit)
      ofFloatCount (Binary64.ofDecimal negative significand (power - places.length))
  | _ => none

/-- One issue for each way in which a timestamp could have been meant. -/
def rejectTimestamp (asTime asDate : IssueCause) : Reading Timestamp :=
  .rejected [⟨["datetime"], asTime⟩, ⟨["date"], asDate⟩]

/-- Year 0 is refused as a date of its own if it comes with no time of day. -/
def timestampOfReading : Iso.Reading → Reading Timestamp
  | .timestamp timestamp => .ok timestamp
  | .yearZero true => rejectTimestamp .datetimeParsing .dateParsing
  | .yearZero false => rejectTimestamp .datetimeParsing .dateFromDatetimeInexact

def timestampOfText (text : String) : Reading Timestamp :=
  match (Iso.readTimestamp? text).or (ofNumeral? text.toList) with
  | some reading => timestampOfReading reading
  | none => rejectTimestamp .datetimeFromDateParsing .dateFromDatetimeParsing

def timestampOfCount : Option Iso.Reading → Reading Timestamp
  | some reading => timestampOfReading reading
  | none => rejectTimestamp .datetimeParsing .dateFromDatetimeParsing

/-- From here on an integer has no nearest floating-point number. -/
def floatBound : Nat := Nat.pow 2 1024 - Nat.pow 2 970

def timestamp : Document → Reading Timestamp
  | .timestamp value => .ok value
  | .text value => timestampOfText value
  | .int value =>
      if value.natAbs < floatBound then timestampOfCount (ofCount value)
      else rejectTimestamp .datetimeType .dateType
  | .float value => timestampOfCount (ofFloatCount value)
  | _ => rejectTimestamp .datetimeType .dateType

end AnalyticsQuery.Reading
