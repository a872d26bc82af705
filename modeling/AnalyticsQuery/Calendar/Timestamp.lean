import AnalyticsQuery.Calendar.Bucket
import AnalyticsQuery.Calendar.Zone
import AnalyticsQuery.Text.Numeral

/-!
# Timestamps

A timestamp names a day, a wall-clock time in a zone left open, or a wall-clock
time with its offset from universal time.  `inZone` reads it on the clocks of a
zone; only the instant that an offset fixes counts there.  The second half
writes dates and times as text.
-/

namespace AnalyticsQuery.Calendar

/-- A wall-clock time together with the microseconds it is ahead of universal time. -/
structure ZonedTime where
  time : WallTime
  offset : Int
  deriving DecidableEq

/-- The instant in universal time. -/
def ZonedTime.instant (moment : ZonedTime) : Except CalendarError WallTime :=
  moment.time.shift (-moment.offset)

def ZonedTime.inZone (moment : ZonedTime) (zone : Zone) : Except CalendarError WallTime := do
  zone.wallTime (← moment.instant)

inductive Timestamp where
  | day (date : Date)
  | naive (time : WallTime)
  | zoned (moment : ZonedTime)
  deriving DecidableEq

/-- Clock reading in `zone`: a day means its midnight, a time without an offset is
already one, and a time with an offset is converted. -/
def Timestamp.inZone (timestamp : Timestamp) (zone : Zone) : Except CalendarError WallTime :=
  match timestamp with
  | .day date => .ok (WallTime.midnight date)
  | .naive time => .ok time
  | .zoned moment => moment.inZone zone

/-- What the wall clock shows, wherever it hangs; for a day that is midnight. -/
def Timestamp.wallTime : Timestamp → WallTime
  | .day date => WallTime.midnight date
  | .naive time => time
  | .zoned moment => moment.time

/-- Another time on the same wall clock. -/
def Timestamp.withWallTime (timestamp : Timestamp) (time : WallTime) : Timestamp :=
  match timestamp with
  | .zoned moment => .zoned ⟨time, moment.offset⟩
  | _ => .naive time

/-- Microseconds that the clock of a timestamp is ahead of universal time, if that is known. -/
def Timestamp.offset? : Timestamp → Option Int
  | .zoned moment => some moment.offset
  | _ => none

/-- Start of the bucket that contains what the wall clock shows, on the same clock. -/
def Timestamp.truncate (timestamp : Timestamp) (unit : CalendarUnit) :
    Except CalendarError Timestamp := do
  return timestamp.withWallTime (← timestamp.wallTime.truncate unit)

/-! ## Text of dates and times -/

namespace Date

/-- Four-digit year, month and day of month. -/
def isoText (date : Date) : String :=
  Numeral.padded 4 date.year.toNat ++ "-" ++ Numeral.padded 2 date.month.toNat ++ "-" ++
    Numeral.padded 2 date.dayOfMonth.toNat

/-- The form that requests use: the year has no leading zeros. -/
def requestText (date : Date) : String :=
  Numeral.natText date.year.toNat ++ "-" ++ Numeral.padded 2 date.month.toNat ++ "-" ++
    Numeral.padded 2 date.dayOfMonth.toNat

end Date

/-- Date and time of day around a separator, with microseconds when there are any. -/
def WallTime.isoText (separator : String) (time : WallTime) : String :=
  let fraction :=
    if time.microsecond = 0 then "" else "." ++ Numeral.padded 6 time.microsecond.toNat
  time.date.isoText ++ separator ++ Numeral.padded 2 time.hour.toNat ++ ":" ++
    Numeral.padded 2 time.minute.toNat ++ ":" ++ Numeral.padded 2 time.second.toNat ++ fraction

/-- An offset as sign, hours and minutes, with seconds and microseconds when there are any. -/
def offsetText (offset : Int) : String :=
  let microseconds := offset.natAbs
  let seconds := microseconds / 1000000
  let fraction :=
    if microseconds % 1000000 = 0 then "" else "." ++ Numeral.padded 6 (microseconds % 1000000)
  let rest :=
    if microseconds % 60000000 = 0 then ""
    else ":" ++ Numeral.padded 2 (seconds % 60) ++ fraction
  (if offset < 0 then "-" else "+") ++ Numeral.padded 2 (seconds / 3600) ++ ":" ++
    Numeral.padded 2 (seconds / 60 % 60) ++ rest

def Timestamp.isoText (separator : String) : Timestamp → String
  | .day date => date.isoText
  | .naive time => time.isoText separator
  | .zoned moment => moment.time.isoText separator ++ offsetText moment.offset

end AnalyticsQuery.Calendar
