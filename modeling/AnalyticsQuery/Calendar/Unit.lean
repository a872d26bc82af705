/-!
# Calendar units

The granularities by which a date field is bucketed.  Each unit has a wire name,
the name of the API dimension that reports it, and the kind of bucket its
arithmetic uses.
-/

namespace AnalyticsQuery.Calendar

inductive CalendarUnit where
  | default
  | minuteOfHour
  | hour
  | hourOfDay
  | day
  | dayOfWeek
  | dayOfMonth
  | week
  | isoWeek
  | weekOfYear
  | month
  | monthOfYear
  | year
  deriving DecidableEq, Repr

/-- The kinds of buckets into which calendar units divide time. -/
inductive Granularity where
  | minute
  | hour
  | day
  | week
  | isoWeek
  | month
  | year
  deriving DecidableEq, Repr

namespace CalendarUnit

def all : List CalendarUnit :=
  [default, minuteOfHour, hour, hourOfDay, day, dayOfWeek, dayOfMonth, week, isoWeek,
    weekOfYear, month, monthOfYear, year]

def name : CalendarUnit → String
  | default => "default"
  | minuteOfHour => "minute-of-hour"
  | hour => "hour"
  | hourOfDay => "hour-of-day"
  | day => "day"
  | dayOfWeek => "day-of-week"
  | dayOfMonth => "day-of-month"
  | week => "week"
  | isoWeek => "iso-week"
  | weekOfYear => "week-of-year"
  | month => "month"
  | monthOfYear => "month-of-year"
  | year => "year"

def ofName? (name : String) : Option CalendarUnit := all.find? (·.name = name)

theorem ofName?_name (unit : CalendarUnit) : ofName? unit.name = some unit := by
  cases unit <;> decide

/-- The default unit means days; every other unit means itself. -/
def normalize : CalendarUnit → CalendarUnit
  | default => day
  | unit => unit

def granularity : CalendarUnit → Granularity
  | minuteOfHour => .minute
  | hour | hourOfDay => .hour
  | default | day | dayOfWeek | dayOfMonth => .day
  | week | weekOfYear => .week
  | isoWeek => .isoWeek
  | month | monthOfYear => .month
  | year => .year

/-- Name of the API dimension that reports a unit. -/
def dimension : CalendarUnit → String
  | minuteOfHour => "ga:minute"
  | hour => "ga:dateHour"
  | hourOfDay => "ga:hour"
  | default | day => "ga:date"
  | dayOfWeek => "ga:dayOfWeek"
  | dayOfMonth => "ga:day"
  | week => "ga:yearWeek"
  | isoWeek => "ga:isoYearIsoWeek"
  | weekOfYear => "ga:week"
  | month => "ga:yearMonth"
  | monthOfYear => "ga:month"
  | year => "ga:year"

end CalendarUnit

def Granularity.name : Granularity → String
  | minute => "minute"
  | hour => "hour"
  | day => "day"
  | week => "week"
  | isoWeek => "iso-week"
  | month => "month"
  | year => "year"

end AnalyticsQuery.Calendar
