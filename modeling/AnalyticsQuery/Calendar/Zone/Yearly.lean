import AnalyticsQuery.Calendar.Zone

/-!
# Zones by yearly rules

A small database of zones whose offset is the same all year, or changes at the same two
moments of every year, each fixed by a Sunday of a month.  The rules are those of the years
around 2020; for other years the zones of other databases may differ from them.
-/

namespace AnalyticsQuery.Calendar

/-- Which Sunday of a month is meant. -/
inductive SundayOfMonth where
  | first
  | second
  | last
  deriving DecidableEq, Repr

/-- A yearly moment of universal time: minutes after the midnight that begins a
Sunday of a month, with January as month 0. -/
structure YearlyMoment where
  month : Int
  sunday : SundayOfMonth
  minutes : Int
  deriving DecidableEq, Repr

def SundayOfMonth.day (sunday : SundayOfMonth) (month : Int) : Int :=
  let firstDay := monthStart month
  let first := firstDay + (6 - daysSinceMonday firstDay)
  match sunday with
  | .first => first
  | .second => first + 7
  | .last =>
      let lastDay := monthStart (month + 1) - 1
      lastDay - daysSinceSunday lastDay

def YearlyMoment.microseconds (moment : YearlyMoment) (year : Int) : Int :=
  moment.sunday.day (12 * year + moment.month) * microsecondsPerDay +
    moment.minutes * microsecondsPerMinute

/-- Offsets, in minutes, of the wall clocks of a zone. -/
inductive YearlyRule where
  | fixed (offset : Int)
  /-- One offset from the first moment of each year until the second, another otherwise. -/
  | seasonal (begins ends : YearlyMoment) (inside outside : Int)
  deriving DecidableEq, Repr

namespace YearlyRule

def minutesAt (rule : YearlyRule) (instant : Int) : Int :=
  match rule with
  | .fixed offset => offset
  | .seasonal begins ends inside outside =>
      let year := yearOf (instant / microsecondsPerDay)
      if begins.microseconds year ≤ instant ∧ instant < ends.microseconds year then inside
      else outside

/-- The offset in seconds. -/
def offsetAt (rule : YearlyRule) (instant : Int) : Int := 60 * rule.minutesAt instant

end YearlyRule

namespace Zone

def tokyo : Zone := ⟨"Asia/Tokyo", YearlyRule.offsetAt (.fixed 540)⟩

def kolkata : Zone := ⟨"Asia/Kolkata", YearlyRule.offsetAt (.fixed 330)⟩

def kathmandu : Zone := ⟨"Asia/Kathmandu", YearlyRule.offsetAt (.fixed 345)⟩

def kiritimati : Zone := ⟨"Pacific/Kiritimati", YearlyRule.offsetAt (.fixed 840)⟩

def pagoPago : Zone := ⟨"Pacific/Pago_Pago", YearlyRule.offsetAt (.fixed (-660))⟩

def fiveHoursWest : Zone := ⟨"Etc/GMT+5", YearlyRule.offsetAt (.fixed (-300))⟩

def madrid : Zone :=
  ⟨"Europe/Madrid", YearlyRule.offsetAt (.seasonal ⟨2, .last, 60⟩ ⟨9, .last, 60⟩ 120 60)⟩

def newYork : Zone :=
  ⟨"America/New_York",
    YearlyRule.offsetAt (.seasonal ⟨2, .second, 420⟩ ⟨10, .first, 360⟩ (-240) (-300))⟩

def stJohns : Zone :=
  ⟨"America/St_Johns",
    YearlyRule.offsetAt (.seasonal ⟨2, .second, 330⟩ ⟨10, .first, 270⟩ (-150) (-210))⟩

def lordHowe : Zone :=
  ⟨"Australia/Lord_Howe",
    YearlyRule.offsetAt (.seasonal ⟨3, .first, -540⟩ ⟨9, .first, -510⟩ 630 660)⟩

end Zone

/-- The zones of the yearly rules. -/
def ZoneDatabase.yearly : ZoneDatabase where
  offsetAt? name :=
    ([.utc, .tokyo, .kolkata, .kathmandu, .kiritimati, .pagoPago, .fiveHoursWest, .madrid,
      .newYork, .stJohns, .lordHowe].find? fun zone : Zone => zone.name = name).map Zone.offsetAt
  offsetAt?_utc := rfl

end AnalyticsQuery.Calendar
