import AnalyticsQuery.Reading.Basic
import AnalyticsQuery.Text.Blank

/-!
# Reading scalars

Numbers and truth values are read leniently, from numbers, texts and truth
values; texts are not.
-/

namespace AnalyticsQuery.Reading

open Calendar

def string : Document → Reading String
  | .text value => .ok value
  | _ => reject .stringType

/-- Number of nonnegative integers of 64 bits with a sign. -/
def int64Bound : Int := 9223372036854775808

/-- A floating-point number counts as whole if it has no fraction and fits 64 bits. -/
def intOfFloat (value : Binary64) : Except IssueCause Int :=
  if !value.isFinite then .error .finiteNumber
  else
    match value.whole? with
    | none => .error .intFromFloat
    | some whole =>
        if -int64Bound < whole ∧ whole < int64Bound then .ok whole else .error .intParsingSize

def intCause : Document → Except IssueCause Int
  | .int value => .ok value
  | .bool value => .ok (if value then 1 else 0)
  | .float value => intOfFloat value
  | .text value =>
      (Numeral.readLoose (Text.trim Text.isBlank value.toList)).mapError fun error => match error with
        | .malformed => .intParsing
        | .tooLong => .intParsingSize
  | _ => .error .intType

def int (document : Document) : Reading Int :=
  match intCause document with
  | .ok value => .ok value
  | .error cause => reject cause

def falseWords : List String := ["0", "off", "f", "false", "n", "no"]

def trueWords : List String := ["1", "on", "t", "true", "y", "yes"]

def boolOfInt (value : Int) : Reading Bool :=
  if value = 0 then .ok false
  else if value = 1 then .ok true
  else reject .boolParsing

def boolOfWord (word : String) : Reading Bool :=
  let lower := String.ofList (word.toList.map Char.toLower)
  if lower ∈ falseWords then .ok false
  else if lower ∈ trueWords then .ok true
  else reject .boolParsing

def bool : Document → Reading Bool
  | .bool value => .ok value
  | .int value =>
      if -int64Bound ≤ value ∧ value < int64Bound then boolOfInt value else reject .boolType
  | .float value =>
      match intOfFloat value with
      | .ok whole => boolOfInt whole
      | .error _ => reject .boolType
  | .text value => boolOfWord value
  | _ => reject .boolType

/-- Null for nothing, anything else as `read` says. -/
def nullable {α : Type} (read : Document → Reading α) : Document → Reading (Option α)
  | .null => .ok none
  | document => some <$> read document

/-- A name out of a fixed list. -/
def choice {α : Type} (choice? : String → Option α) : Document → Reading α
  | .text name =>
      match choice? name with
      | some value => .ok value
      | none => reject .enum
  | _ => reject .enum

end AnalyticsQuery.Reading
