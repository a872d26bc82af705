import AnalyticsQuery.Calendar.WallTime

/-!
# Time zones

A zone is a name together with the offset of its wall clocks from universal time as a
function of the instant.  Which names are known, and with which offsets, is for a database
of zones to say; all that is relied on is that it knows universal time.
-/

namespace AnalyticsQuery.Calendar

/-- A zone by its name.  `offsetAt` gives the seconds that its wall clocks are ahead of
universal time at an instant, in microseconds of universal time. -/
structure Zone where
  name : String
  offsetAt : Int → Int

namespace Zone

/-- Universal time itself. -/
def utc : Zone := ⟨"UTC", fun _ => 0⟩

/-- Wall clocks of a zone when it is `instant` in universal time. -/
def wallTime (zone : Zone) (instant : WallTime) : Except CalendarError WallTime :=
  instant.shift (zone.offsetAt instant.microseconds * microsecondsPerSecond)

end Zone

/-- The offsets of the known zones under their names. -/
structure ZoneDatabase where
  offsetAt? : String → Option (Int → Int)
  offsetAt?_utc : offsetAt? Zone.utc.name = some Zone.utc.offsetAt

namespace ZoneDatabase

variable {zones : ZoneDatabase} {name : String} {zone : Zone}

/-- The zone with a name. -/
def zone? (zones : ZoneDatabase) (name : String) : Option Zone :=
  (zones.offsetAt? name).map (Zone.mk name)

/-- A zone is known if its name leads to it. -/
def Knows (zones : ZoneDatabase) (zone : Zone) : Prop := zones.zone? zone.name = some zone

theorem knows_utc (zones : ZoneDatabase) : zones.Knows .utc := by
  rw [Knows, zone?, zones.offsetAt?_utc]
  rfl

theorem knows_of_zone? (h : zones.zone? name = some zone) : zones.Knows zone := by
  obtain ⟨offsetAt, hoffset, rfl⟩ := Option.map_eq_some_iff.1 h
  rw [Knows, zone?, hoffset]
  rfl

end ZoneDatabase

end AnalyticsQuery.Calendar
