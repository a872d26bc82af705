import AnalyticsQuery.Calendar.Timestamp

/-!
# Reading dates and times

`readTimestamp?` reads a date, or a date and a time of day with an optional
offset.  `readDate` reads a date alone and also knows the compact and the
week-numbered forms; the result says which rule a refused text breaks.
-/

namespace AnalyticsQuery.Calendar.Iso

open Numeral (takeDigits?)

/-- A calendar date whose month and day exist; year 0 is still among them. -/
structure DateFields where
  year : Nat
  month : Nat
  dayOfMonth : Nat

/-- `YYYY-MM-DD` at the front of a text. -/
def takeDate? (chars : List Char) : Option (DateFields × List Char) := do
  let (year, rest) ← takeDigits? 4 chars
  let ('-' :: rest) := rest | none
  let (month, rest) ← takeDigits? 2 rest
  let ('-' :: rest) := rest | none
  let (dayOfMonth, rest) ← takeDigits? 2 rest
  if 1 ≤ month ∧ month ≤ 12 ∧ 1 ≤ dayOfMonth ∧
      (dayOfMonth : Int) ≤ monthLength (12 * year + (month - 1)) then
    some (⟨year, month, dayOfMonth⟩, rest)
  else none

/-- Fraction of a second: the first six digits count. -/
def takeFraction? (chars : List Char) : Option (Nat × List Char) :=
  match chars.takeWhile Numeral.isDigit with
  | [] => none
  | digits =>
      let kept := digits.take 6
      (Numeral.readDigits? (kept ++ List.replicate (6 - kept.length) '0')).map
        fun value => (value, chars.dropWhile Numeral.isDigit)

/-- `HH:MM`, then optional seconds with an optional fraction; gives microseconds. -/
def takeTimeOfDay? (chars : List Char) : Option (Int × List Char) := do
  let (hour, rest) ← takeDigits? 2 chars
  let (':' :: rest) := rest | none
  let (minute, rest) ← takeDigits? 2 rest
  if 23 < hour ∨ 59 < minute then none
  let minutes : Int := (60 * hour + minute) * microsecondsPerMinute
  match rest with
  | ':' :: rest =>
      let (second, rest) ← takeDigits? 2 rest
      if 59 < second then none
      match rest with
      | '.' :: rest | ',' :: rest =>
          let (fraction, rest) ← takeFraction? rest
          return (minutes + 1000000 * second + fraction, rest)
      | rest => return (minutes + 1000000 * second, rest)
  | rest => return (minutes, rest)

/-- A signed offset of hours and minutes of less than a day; gives minutes. -/
def readSignedOffset? (chars : List Char) : Option Int := do
  let (sign, rest) ← match chars with
    | '+' :: rest => some (1, rest)
    | '-' :: rest | '−' :: rest => some (-1, rest)
    | _ => none
  let (hours, rest) ← takeDigits? 2 rest
  let rest := match rest with
    | ':' :: rest => rest
    | rest => rest
  let (minutes, rest) ← takeDigits? 2 rest
  if rest = [] ∧ minutes < 60 ∧ hours < 24 then some (sign * (60 * hours + minutes : Int))
  else none

/-- What a well-formed text of a date and time stands for. -/
inductive Reading where
  | timestamp (timestamp : Timestamp)
  /-- Year 0 is no year of the calendar; tells whether the time of day is midnight. -/
  | yearZero (midnight : Bool)

def place (fields : DateFields) (timeOfDay : Int) (offset : Option Int) : Reading :=
  match Date.ofFields fields.year fields.month fields.dayOfMonth with
  | .error _ => .yearZero (timeOfDay = 0)
  | .ok date =>
      match (WallTime.midnight date).shift timeOfDay, offset with
      | .error _, _ => .yearZero (timeOfDay = 0)
      | .ok time, none => .timestamp (.naive time)
      | .ok time, some minutes =>
          .timestamp (.zoned ⟨time, minutes * microsecondsPerMinute⟩)

/-- Reads a date and time; a date alone is its midnight. -/
def readTimestamp? (text : String) : Option Reading := do
  let (fields, rest) ← takeDate? text.toList
  match rest with
  | [] => return place fields 0 none
  | separator :: rest =>
      if separator ∉ ['T', 't', ' ', '_'] then none
      let (timeOfDay, rest) ← takeTimeOfDay? rest
      match rest with
      | [] => return place fields timeOfDay none
      | ['Z'] | ['z'] => return place fields timeOfDay (some 0)
      | rest => return place fields timeOfDay (some (← readSignedOffset? rest))

/-! ## Dates alone -/

/-- Why a text is no date. -/
inductive DateReadError where
  | malformed
  | fault (fault : DateFault)
  deriving DecidableEq, Repr

/-- Monday of the first ISO week of a year: the week with the year's first Thursday. -/
def firstIsoMonday (year : Int) : Int :=
  let newYear := yearStart year
  let monday := newYear - daysSinceMonday newYear
  if daysSinceMonday newYear ≤ 3 then monday else monday + 7

def isoWeekCount (year : Int) : Int := (firstIsoMonday (year + 1) - firstIsoMonday year) / 7

/-- The day of a year, ISO week and day of that week. -/
def ofIsoWeek (year week dayOfWeek : Nat) : Except DateReadError Date :=
  if week < 1 ∨ isoWeekCount year < week ∨ dayOfWeek < 1 ∨ 7 < dayOfWeek then
    .error .malformed
  else if year = 0 then .error (.fault .month)
  else
    let day := firstIsoMonday year + 7 * (week - 1) + (dayOfWeek - 1)
    match Date.ofDay? day with
    | some date => .ok date
    | none => .error (.fault (.year (yearOf day)))

/-- What follows the year in a week date; the first day of the week may be left out. -/
def readWeekDate (year : Nat) (dashed : Bool) (chars : List Char) :
    Except DateReadError Date :=
  match takeDigits? 2 chars with
  | none => .error .malformed
  | some (week, []) => ofIsoWeek year week 1
  | some (week, rest) =>
      let dayChars := if dashed then (if rest.head? = some '-' then rest.drop 1 else []) else rest
      match takeDigits? 1 dayChars with
      | none => .error .malformed
      | some (dayOfWeek, _) => ofIsoWeek year week dayOfWeek

/-- What follows the year in a month date. -/
def readMonthDate (year : Nat) (dashed : Bool) (chars : List Char) :
    Except DateReadError Date :=
  match takeDigits? 2 chars with
  | none => .error .malformed
  | some (month, rest) =>
      let dayChars := if dashed then (if rest.head? = some '-' then rest.drop 1 else []) else rest
      match takeDigits? 2 dayChars with
      | none => .error .malformed
      | some (dayOfMonth, _) => (Date.ofFields year month dayOfMonth).mapError .fault

/-- Reads a date with or without dashes, by month and day or by ISO week.  The text
takes seven, eight or ten bytes; what follows a complete date within them is ignored. -/
def readDate (text : String) : Except DateReadError Date :=
  if text.utf8ByteSize ∉ [7, 8, 10] then .error .malformed
  else
    match takeDigits? 4 text.toList with
    | none => .error .malformed
    | some (year, rest) =>
        let dashed := rest.head? = some '-'
        match if dashed then rest.drop 1 else rest with
        | 'W' :: rest => readWeekDate year dashed rest
        | rest => readMonthDate year dashed rest

end AnalyticsQuery.Calendar.Iso
