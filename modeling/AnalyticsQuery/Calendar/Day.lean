/-!
# Days of the proleptic Gregorian calendar

A day is counted from the first day of year 1, and a month is counted from the
first month of year 0, so month `12 * y + m` is month number `m + 1` of year `y`.
Both counts are unbounded whole numbers; `Date` keeps those of years 1 to 9999.
-/

namespace AnalyticsQuery.Calendar

def isLeap (year : Int) : Bool :=
  year % 4 == 0 && (year % 100 != 0 || year % 400 == 0)

/-- First day of a year. -/
def yearStart (year : Int) : Int :=
  365 * (year - 1) + (year - 1) / 4 - (year - 1) / 100 + (year - 1) / 400

/-- Days of a year before its month `month`, with January as month 0. -/
def monthOffset (leap : Bool) (month : Nat) : Int :=
  let leapDay : Int := if leap then 1 else 0
  match month with
  | 0 => 0
  | 1 => 31
  | 2 => 59 + leapDay
  | 3 => 90 + leapDay
  | 4 => 120 + leapDay
  | 5 => 151 + leapDay
  | 6 => 181 + leapDay
  | 7 => 212 + leapDay
  | 8 => 243 + leapDay
  | 9 => 273 + leapDay
  | 10 => 304 + leapDay
  | 11 => 334 + leapDay
  | _ => 365 + leapDay

/-- First day of a month. -/
def monthStart (month : Int) : Int :=
  yearStart (month / 12) + monthOffset (isLeap (month / 12)) (month % 12).toNat

def monthLength (month : Int) : Int := monthStart (month + 1) - monthStart month

/-- Year that contains a day.  Four hundred years have 146097 days, so the
quotient misses the year by at most one. -/
def yearOf (day : Int) : Int :=
  let guess := 400 * day / 146097 + 1
  if day < yearStart guess then guess - 1
  else if yearStart (guess + 1) ≤ day then guess + 1
  else guess

/-- How many months of a year, after the first, have begun on a day of it. -/
def monthsBegun (leap : Bool) (dayOfYear : Int) : Nat :=
  (List.range 11).countP fun month => monthOffset leap (month + 1) ≤ dayOfYear

/-- Month that contains a day. -/
def monthOf (day : Int) : Int :=
  12 * yearOf day + monthsBegun (isLeap (yearOf day)) (day - yearStart (yearOf day))

/-- Days since Monday; the first day of year 1 is a Monday. -/
def daysSinceMonday (day : Int) : Int := day % 7

def daysSinceSunday (day : Int) : Int := (day + 1) % 7

/-- Number of days in years 1 to 9999. -/
def dayCount : Int := 3652059

/-- A day of years 1 to 9999. -/
structure Date where
  day : Int
  inRange : 0 ≤ day ∧ day < dayCount
  deriving DecidableEq

/-- What is wrong with a year, month and day of month. -/
inductive DateFault where
  | year (year : Int)
  | month
  | dayOfMonth
  deriving DecidableEq, Repr

namespace Date

def ofDay? (day : Int) : Option Date :=
  if inRange : 0 ≤ day ∧ day < dayCount then some ⟨day, inRange⟩ else none

def year (date : Date) : Int := yearOf date.day

/-- Month of the year, from 1 to 12. -/
def month (date : Date) : Int := monthOf date.day % 12 + 1

def dayOfMonth (date : Date) : Int := date.day - monthStart (monthOf date.day) + 1

/-- The day with a given year, month and day of month; the year is checked first. -/
def ofFields (year month dayOfMonth : Int) : Except DateFault Date :=
  if year < 1 ∨ 9999 < year then .error (.year year)
  else if month < 1 ∨ 12 < month then .error .month
  else
    let index := 12 * year + (month - 1)
    if dayOfMonth < 1 ∨ monthLength index < dayOfMonth then .error .dayOfMonth
    else
      match ofDay? (monthStart index + (dayOfMonth - 1)) with
      | some date => .ok date
      | none => .error (.year year)

end Date

end AnalyticsQuery.Calendar
