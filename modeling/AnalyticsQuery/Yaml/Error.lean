import AnalyticsQuery.Calendar.Named

/-!
# What can be wrong with a YAML text

A text fails at the first stage that finds a fault: its characters, its tokens, its
grammar, its references, or the values of its nodes.
-/

namespace AnalyticsQuery.Yaml

open Calendar (DateFault)

/-- Why the text of a scalar has no value of the scalar's kind. -/
inductive ScalarError where
  | noInteger (base : Nat) (text : String)
  | noFloat (text : String)
  /-- A decimal integer has more digits than are read. -/
  | tooManyDigits (count : Nat)
  /-- A number without a single character. -/
  | emptyNumber
  /-- A number with so many parts in base sixty that the unit of one is infinite. -/
  | unitTooLarge
  | noTruthValue
  | noTimestamp
  | date (fault : DateFault)
  | hour
  | minute
  | second
  /-- An offset, in minutes, of a whole day or more. -/
  | offset (minutes : Int)
  deriving DecidableEq

namespace ScalarError

/-- A length of time as whole days, rounded down, and what is left in seconds. -/
def durationText (minutes : Int) : String :=
  let days := minutes / 1440
  let seconds := 60 * (minutes % 1440)
  let parts :=
    (if days = 0 then [] else ["days=" ++ Numeral.intText days]) ++
      (if seconds = 0 then [] else ["seconds=" ++ Numeral.intText seconds])
  "datetime.timedelta(" ++ ", ".intercalate parts ++ ")"

/-- Most characters of a quoted text that are shown of what is no integer. -/
def longestExcerpt : Nat := 200

def message : ScalarError → String
  | noInteger base text =>
      "invalid literal for int() with base " ++ Numeral.natText base ++ ": " ++
        String.ofList ((Text.quoted text).toList.take longestExcerpt)
  | noFloat text => "could not convert string to float: " ++ Text.quoted text
  | tooManyDigits count =>
      "Exceeds the limit (4300 digits) for integer string conversion: value has " ++
        Numeral.natText count ++ " digits; use sys.set_int_max_str_digits() to increase the limit"
  | emptyNumber => "string index out of range"
  | unitTooLarge => "int too large to convert to float"
  | noTruthValue => "no truth value"
  | noTimestamp => "no date or time"
  | date fault => fault.message
  | hour => "hour must be in 0..23"
  | minute => "minute must be in 0..59"
  | second => "second must be in 0..59"
  | offset minutes =>
      "offset must be a timedelta strictly between -timedelta(hours=24) and " ++
        "timedelta(hours=24), not " ++ durationText minutes ++ "."

end ScalarError

/-- Why a text is no YAML document. -/
inductive ReadError where
  /-- A character that no text may contain. -/
  | character
  /-- The text does not divide into tokens. -/
  | lexical
  /-- An escape for a number that is no code point. -/
  | codePoint (code : Nat)
  /-- The tokens form no document. -/
  | grammar
  /-- A name is unknown or given twice, or there is a second document. -/
  | reference
  /-- A node of a kind that stands for no value. -/
  | construction
  | scalar (error : ScalarError)
  deriving DecidableEq

/-- From here on a number is not even tried as a code point. -/
def codePointBound : Nat := 2147483648

end AnalyticsQuery.Yaml
