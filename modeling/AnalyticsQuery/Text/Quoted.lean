import AnalyticsQuery.Text.Printable

/-!
# Quoted text

The form in which a text appears inside an error message or inside the text of a
list or an object: quotes at both ends, and an escape for every character that
would not show as itself.
-/

namespace AnalyticsQuery.Text

def hexDigits (width value : Nat) : List Char :=
  let digits := Nat.toDigits 16 value
  List.replicate (width - digits.length) '0' ++ digits

/-- Single quotes, unless the text holds a single quote and no double quote. -/
def quoteFor (chars : List Char) : Char :=
  if chars.contains '\'' && !chars.contains '"' then '"' else '\''

def escapeIn (quote char : Char) : List Char :=
  if char = quote ∨ char = '\\' then ['\\', char]
  else if char = '\n' then ['\\', 'n']
  else if char = '\r' then ['\\', 'r']
  else if char = '\t' then ['\\', 't']
  else if isPrintable char then [char]
  else if char.toNat ≤ 0xFF then '\\' :: 'x' :: hexDigits 2 char.toNat
  else if char.toNat ≤ 0xFFFF then '\\' :: 'u' :: hexDigits 4 char.toNat
  else '\\' :: 'U' :: hexDigits 8 char.toNat

def quotedChars (chars : List Char) : List Char :=
  let quote := quoteFor chars
  quote :: chars.flatMap (escapeIn quote) ++ [quote]

def quoted (text : String) : String := String.ofList (quotedChars text.toList)

/-- Quoted texts between brackets, as a message lists them. -/
def quotedList (texts : List String) : String :=
  "[" ++ ", ".intercalate (texts.map quoted) ++ "]"

end AnalyticsQuery.Text
