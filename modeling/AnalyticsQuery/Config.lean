import AnalyticsQuery.Calendar.Zone

/-!
# Settings

The constants of the reporting API and of one report: the dates that stand in for
missing bounds, the page size, the prefix of table names, and the time zone in
which days begin.
-/

namespace AnalyticsQuery

structure Config where
  /-- Start date of a query without a lower bound. -/
  earliestDate : String := "2005-01-01"
  /-- End date of a query without an upper bound. -/
  latestDate : String := "today"
  maxResults : Int := 10000
  tablePrefix : String := "ga:"
  zone : Calendar.Zone := .utc
  includeEmptyRows : Bool := false

end AnalyticsQuery
