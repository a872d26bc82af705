import AnalyticsQuery.Calendar.ZoneName
import AnalyticsQuery.Form.DateRange
import AnalyticsQuery.Proofs.DateRange.Merge
import AnalyticsQuery.Proofs.Fallible
import AnalyticsQuery.Proofs.DateRange.Condition
import AnalyticsQuery.Proofs.Filter.Subfilters
import AnalyticsQuery.Proofs.FilterText.Splitting
import AnalyticsQuery.Session
import AnalyticsQuery.Yaml.Value
import AnalyticsQuery.Yaml.Writer
import AnalyticsQuery.Proofs.DateRange.Extraction
import AnalyticsQuery.Proofs.Filter.Address
import AnalyticsQuery.Proofs.FilterText.Clauses
import AnalyticsQuery.Proofs.FilterText.Pieces
import AnalyticsQuery.Proofs.Filter.Meaning
import AnalyticsQuery.Proofs.FilterText.Readings
import AnalyticsQuery.Proofs.FilterText.Ambiguity
import AnalyticsQuery.Proofs.Compile.Dropped
import AnalyticsQuery.Proofs.Compile.Reports
import AnalyticsQuery.Proofs.Compile.Accounting
import AnalyticsQuery.Proofs.Form.Nodes
import AnalyticsQuery.Proofs.Form.RoundTrip
import AnalyticsQuery.Proofs.Form.Settings
import AnalyticsQuery.Proofs.FilterText.Reader
import AnalyticsQuery.Proofs.FilterText.Expressible
import AnalyticsQuery.Proofs.Calendar.Bucket
import AnalyticsQuery.Proofs.DateRange.Days
import AnalyticsQuery.Proofs.DateRange.Operand
import AnalyticsQuery.Proofs.DateRange.Comparison
import AnalyticsQuery.Proofs.Compile.Union
import AnalyticsQuery.Proofs.Form.Given
import AnalyticsQuery.Proofs.Form.Notations
import AnalyticsQuery.Proofs.Form.Attributes
import AnalyticsQuery.Proofs.Session
import AnalyticsQuery.Proofs.Form.Interchange
import AnalyticsQuery.Proofs.Form.Faults
import AnalyticsQuery.Proofs.Form.Escapes
import AnalyticsQuery.Proofs.Compile.Agreement
import AnalyticsQuery.Proofs.Compile.Names
import AnalyticsQuery.Proofs.Compile.Clock
import AnalyticsQuery.Proofs.Compile.Log
import AnalyticsQuery.Proofs.Filter.Ranges
import AnalyticsQuery.Proofs.Compile.Between
import AnalyticsQuery.Proofs.Calendar.Years
import AnalyticsQuery.Proofs.Compile.Numbers
import AnalyticsQuery.Proofs.Compile.Failures
import AnalyticsQuery.Proofs.Compile.Guards
import AnalyticsQuery.Proofs.Calendar.Truncation
import AnalyticsQuery.Proofs.Calendar.Compared
import AnalyticsQuery.Proofs.DateRange.Monotone
import AnalyticsQuery.Proofs.Calendar.Movement
import AnalyticsQuery.Proofs.DateRange.Rendering
import AnalyticsQuery.Proofs.Filter.Pruned
import AnalyticsQuery.Proofs.Compile.DefaultUnit
import AnalyticsQuery.Proofs.DateRange.DateHalf
import AnalyticsQuery.Proofs.FilterText.Pattern
import AnalyticsQuery.Proofs.Compile.Orders
import AnalyticsQuery.Proofs.Compile.Moments
import AnalyticsQuery.Proofs.DateRange.Regrouping
import AnalyticsQuery.Proofs.Compile.Collapse
import AnalyticsQuery.Proofs.Calendar.IsoText
import AnalyticsQuery.Proofs.DateRange.Language
