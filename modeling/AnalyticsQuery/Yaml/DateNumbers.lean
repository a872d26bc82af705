import AnalyticsQuery.Calendar.Iso
import AnalyticsQuery.Yaml.Cursor

/-!
# Spelling of YAML dates

The numbers that a date, with or without a time of day, is written with, whether
there is such a day and such a time or not.
-/

namespace AnalyticsQuery.Yaml

/-- The numbers of a time of day, with its offset in minutes. -/
structure ClockNumbers where
  hour : Nat
  minute : Nat
  second : Nat
  microsecond : Nat
  offset : Option Int

/-- The numbers of a date, and of a time of day if there is one. -/
structure DateNumbers where
  year : Nat
  month : Nat
  dayOfMonth : Nat
  clock : Option ClockNumbers

def takeOneOrTwoDigits? (chars : List Char) : Option (Nat × List Char) :=
  (Numeral.takeDigits? 2 chars).or (Numeral.takeDigits? 1 chars)

/-- The separator of date and time of day: a letter, or blanks. -/
def takeSeparator? : List Char → Option (List Char)
  | 'T' :: rest | 't' :: rest => some rest
  | char :: rest => if isSpaceOrTab char then some (rest.dropWhile isSpaceOrTab) else none
  | [] => none

/-- Hours, and minutes after a colon, of an offset; gives minutes. -/
def readOffsetSize? (chars : List Char) : Option Nat := do
  let (hours, rest) ← takeOneOrTwoDigits? chars
  match rest with
  | [] => some (60 * hours)
  | ':' :: rest =>
      if rest.length = 2 then (Numeral.readDigits? rest).map (60 * hours + ·) else none
  | _ => none

/-- What follows the time of day: nothing, or an offset after blanks. -/
def readOffset? (chars : List Char) : Option (Option Int) :=
  match chars, chars.dropWhile isSpaceOrTab with
  | [], _ => some none
  | _, ['Z'] => some (some 0)
  | _, '+' :: rest => (readOffsetSize? rest).map fun size => some size
  | _, '-' :: rest => (readOffsetSize? rest).map fun size => some (-size)
  | _, _ => none

/-- A fraction of a second, of which six digits count; there may be none. -/
def takeFraction (chars : List Char) : Nat × List Char :=
  match chars with
  | '.' :: rest => (Calendar.Iso.takeFraction? rest).getD (0, rest)
  | rest => (0, rest)

/-- A time of day up to seconds, and perhaps a fraction and an offset. -/
def readClock? (chars : List Char) : Option ClockNumbers := do
  let (hour, rest) ← takeOneOrTwoDigits? chars
  let (':' :: rest) := rest | none
  let (minute, rest) ← Numeral.takeDigits? 2 rest
  let (':' :: rest) := rest | none
  let (second, rest) ← Numeral.takeDigits? 2 rest
  let (microsecond, rest) := takeFraction rest
  return ⟨hour, minute, second, microsecond, ← readOffset? rest⟩

/-- A date, or one followed by a time of day. -/
def readDateNumbers? (chars : List Char) : Option DateNumbers := do
  let (year, rest) ← Numeral.takeDigits? 4 chars
  let ('-' :: rest) := rest | none
  let (month, rest) ← takeOneOrTwoDigits? rest
  let ('-' :: rest) := rest | none
  let (dayOfMonth, rest) ← takeOneOrTwoDigits? rest
  match rest with
  | [] => some ⟨year, month, dayOfMonth, none⟩
  | rest => return ⟨year, month, dayOfMonth, ← readClock? (← takeSeparator? rest)⟩

end AnalyticsQuery.Yaml
