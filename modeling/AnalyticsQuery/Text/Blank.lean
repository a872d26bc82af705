/-!
# Blank characters

The characters with the Unicode property `White_Space`, the wider class of those that
separate words or records, and what is left of a text without such characters at its ends.
-/

namespace AnalyticsQuery.Text

def isBlank (char : Char) : Bool :=
  let code := char.toNat
  (9 ≤ code && code ≤ 13) || code == 0x20 || code == 0x85 || code == 0xA0 ||
    code == 0x1680 || (0x2000 ≤ code && code ≤ 0x200A) || code == 0x2028 ||
    code == 0x2029 || code == 0x202F || code == 0x205F || code == 0x3000

/-- Blanks, and the control characters that separate files, groups, records and units. -/
def isSpace (char : Char) : Bool :=
  isBlank char || (0x1C ≤ char.toNat && char.toNat ≤ 0x1F)

/-- The text without the characters of a class at both ends. -/
def trim (blank : Char → Bool) (chars : List Char) : List Char :=
  ((chars.dropWhile blank).reverse.dropWhile blank).reverse

/-- A text that says nothing, such as the empty one. -/
def allBlank (text : String) : Bool := text.toList.all isSpace

end AnalyticsQuery.Text
