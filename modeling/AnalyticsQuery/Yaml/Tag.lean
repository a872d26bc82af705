import AnalyticsQuery.Yaml.DateNumbers

/-!
# Kinds of YAML nodes

What a node stands for is named by a tag, or follows from the spelling of a scalar
without quotes.
-/

namespace AnalyticsQuery.Yaml

/-- Whether a character is a digit of a base up to sixteen. -/
def isDigitOf (base : Nat) (char : Char) : Bool := (Numeral.hexDigit? char).any (· < base)

inductive Tag where
  | null
  | bool
  | int
  | float
  | timestamp
  | text
  /-- Text whose bytes are written in base64. -/
  | binary
  | sequence
  | mapping
  /-- The keys of a mapping. -/
  | set
  /-- Entries in a sequence, whose keys may be anything and may be equal. -/
  | pairs
  /-- A key whose value is a mapping, or several, with further entries. -/
  | merge
  /-- A key for the default value of a mapping. -/
  | default
  /-- Nothing that is known. -/
  | unknown
  deriving DecidableEq

namespace Tag

/-- What all names of known kinds start with. -/
def family : String := "tag:yaml.org,2002:"

def names : List (String × Tag) :=
  [("null", null), ("bool", bool), ("int", int), ("float", float), ("timestamp", timestamp),
    ("str", text), ("binary", binary), ("seq", sequence), ("map", mapping), ("set", set),
    ("omap", pairs), ("pairs", pairs), ("merge", merge), ("value", default)]

/-- Whether nodes of a kind have parts. -/
def isCollection (tag : Tag) : Bool :=
  decide (tag = sequence ∨ tag = mapping ∨ tag = set ∨ tag = pairs)

def ofName (name : String) : Tag :=
  ((names.find? fun entry => family ++ entry.1 = name).map (·.2)).getD unknown

/-! ## Spelling of numbers -/

def isDigitOrUnderscore (char : Char) : Bool := Numeral.isDigit char || char == '_'

/-- Digits and underscores that start with a digit. -/
def isGrouped (chars : List Char) : Bool :=
  chars.head?.any Numeral.isDigit && chars.all isDigitOrUnderscore

/-- Grouped digits that do not start with zero. -/
def isDecimal (chars : List Char) : Bool := isGrouped chars && chars.head? != some '0'

/-- One or two digits below sixty. -/
def isSixtieth (chars : List Char) : Bool :=
  decide (chars.length ≤ 2) && (Numeral.readDigits? chars).any (· < 60)

/-- A first group and at least one more, in base sixty. -/
def isSexagesimal (isFirst : List Char → Bool) (chars : List Char) : Bool :=
  match chars.splitOn ':' with
  | first :: second :: groups => isFirst first && (second :: groups).all isSixtieth
  | _ => false

/-- Digits of a base and underscores, in any order. -/
def isBased (base : Nat) (chars : List Char) : Bool :=
  !chars.isEmpty && chars.all fun char => char == '_' || isDigitOf base char

def isMagnitude (chars : List Char) : Bool :=
  match chars with
  | ['0'] => true
  | '0' :: 'b' :: digits => isBased 2 digits
  | '0' :: 'x' :: digits => isBased 16 digits
  | '0' :: digits => isBased 8 digits
  | chars => isDecimal chars || isSexagesimal isDecimal chars

def isInt (chars : List Char) : Bool := isMagnitude (Numeral.splitSign chars).2

/-- Nothing, or a mark, a sign and digits. -/
def isPower : List Char → Bool
  | [] => true
  | mark :: sign :: digits =>
      (mark == 'e' || mark == 'E') && (sign == '+' || sign == '-') &&
        !digits.isEmpty && digits.all Numeral.isDigit
  | [_] => false

def infinityWords : List String := [".inf", ".Inf", ".INF"]

def nanWords : List String := [".nan", ".NaN", ".NAN"]

/-- A number with a point.  Without digits in front of the point it has no sign, and
in base sixty no power. -/
def isPointed (chars : List Char) : Bool :=
  let body := (Numeral.splitSign chars).2
  let whole := body.takeWhile (· != '.')
  match body.dropWhile (· != '.') with
  | [] => false
  | _ :: rest =>
      let places := rest.takeWhile isDigitOrUnderscore
      let power := rest.dropWhile isDigitOrUnderscore
      if whole.isEmpty then
        body == chars && places.head?.any Numeral.isDigit && isPower power
      else (isGrouped whole && isPower power) || (isSexagesimal isGrouped whole && power.isEmpty)

def isFloat (chars : List Char) : Bool :=
  decide (String.ofList (Numeral.splitSign chars).2 ∈ infinityWords) ||
    decide (String.ofList chars ∈ nanWords) || isPointed chars

/-! ## Spelling of words and dates -/

/-- A date alone takes ten characters, whether there is such a day or not. -/
def isTimestamp (chars : List Char) : Bool :=
  (readDateNumbers? chars).any fun numbers => numbers.clock.isSome || chars.length == 10

def nullWords : List String := ["", "~", "null", "Null", "NULL"]

def boolWords : List String :=
  ["yes", "Yes", "YES", "no", "No", "NO", "true", "True", "TRUE", "false", "False", "FALSE",
    "on", "On", "ON", "off", "Off", "OFF"]

/-- The kind of a scalar without quotes. -/
def ofPlain (text : String) : Tag :=
  let chars := text.toList
  if text ∈ nullWords then null
  else if text ∈ boolWords then bool
  else if isInt chars then int
  else if isFloat chars then float
  else if isTimestamp chars then timestamp
  else if text = "<<" then merge
  else if text = "=" then default
  else Tag.text

end Tag

end AnalyticsQuery.Yaml
