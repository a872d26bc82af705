/-!
# Parts of a text
-/

namespace AnalyticsQuery.Text

/-- Whether `part` occurs in a text as a run of adjacent characters. -/
def hasPart (part : List Char) : List Char → Bool
  | [] => part.isEmpty
  | char :: chars => part.isPrefixOf (char :: chars) || hasPart part chars

end AnalyticsQuery.Text
