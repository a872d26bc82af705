import AnalyticsQuery.Binary64.Arithmetic
import AnalyticsQuery.Text.Blank
import AnalyticsQuery.Text.DecimalDigit
import AnalyticsQuery.Yaml.Error
import AnalyticsQuery.Yaml.Tag

/-!
# Values of YAML numbers

A number under a tag may be any text.  Underscores in it say nothing, and it has a
sign of its own.  What is left is one part, or parts in base sixty between colons,
each of which is read with a sign of its own and with digits of any script.
-/

namespace AnalyticsQuery.Yaml

def dropUnderscores (chars : List Char) : List Char := chars.filter (· != '_')

/-- Whether a number has a minus, and what follows its sign. -/
def splitNumber (chars : List Char) : Except ScalarError (Bool × List Char) :=
  let chars := dropUnderscores chars
  if chars.isEmpty then .error .emptyNumber else .ok (Numeral.splitSign chars)

/-- Whether a part has a minus, and what follows its sign, without blanks around it. -/
def splitPart (chars : List Char) : Bool × List Char :=
  Numeral.splitSign ((Text.trim Text.isSpace chars).map Text.usualDigit)

/-! ## Integers -/

/-- The letter that may follow a zero in front of the digits of a base. -/
def baseLetter? (base : Nat) : Option Char :=
  [(2, 'b'), (8, 'o'), (16, 'x')].lookup base

def dropBaseMark (base : Nat) (chars : List Char) : List Char :=
  match chars with
  | '0' :: letter :: digits =>
      if baseLetter? base = some letter.toLower then digits else chars
  | _ => chars

/-- The value of digits up to hexadecimal ones; other characters count as zero. -/
def digitsValue (base : Nat) (digits : List Char) : Nat :=
  digits.foldl (fun value char => base * value + (Numeral.hexDigit? char).getD 0) 0

/-- A part in a base.  The number of decimal digits is limited, whatever follows them. -/
def readPart (base : Nat) (chars : List Char) : Except ScalarError Int :=
  let (negative, body) := splitPart chars
  let body := dropBaseMark base body
  let digits := body.takeWhile (isDigitOf base)
  if base = 10 ∧ Numeral.longestNumber < digits.length then .error (.tooManyDigits digits.length)
  else if digits.isEmpty ∨ digits.length < body.length then
    .error (.noInteger base (String.ofList chars))
  else .ok (Numeral.signed negative (digitsValue base digits))

/-- A number after its sign: in base two, eight or sixteen if it says so, in base sixty
if it has several parts. -/
def readParts (chars : List Char) : Except ScalarError Int :=
  match chars with
  | [] => .error .emptyNumber
  | ['0'] => .ok 0
  | '0' :: 'b' :: digits => readPart 2 digits
  | '0' :: 'x' :: digits => readPart 16 digits
  | '0' :: _ => readPart 8 chars
  | chars =>
      (chars.splitOn ':').foldlM
        (fun value part => (readPart 10 part).map (60 * value + ·)) 0

def readInt (chars : List Char) : Except ScalarError Int := do
  let (negative, body) ← splitNumber chars
  let value ← readParts body
  return if negative then -value else value

/-! ## Floating-point numbers -/

/-- Decimal digits with a point and a power of ten, all of which may be left out but
one digit. -/
def readDecimal? (chars : List Char) : Option (Nat × Int) := do
  let whole := chars.takeWhile Numeral.isDigit
  let (places, rest) := match chars.dropWhile Numeral.isDigit with
    | '.' :: rest => (rest.takeWhile Numeral.isDigit, rest.dropWhile Numeral.isDigit)
    | rest => ([], rest)
  let significand ← Numeral.readDigits? (whole ++ places)
  let power ← match rest with
    | [] => some 0
    | mark :: rest =>
        let (negative, digits) := Numeral.splitSign rest
        if mark = 'e' then (Numeral.readDigits? digits).map (Numeral.signed negative) else none
  return (significand, power - places.length)

/-- A part in small letters. -/
def readFloatPart (chars : List Char) : Except ScalarError Binary64 :=
  let (negative, body) := splitPart chars
  match readDecimal? body with
  | some (significand, power) => .ok (Binary64.ofDecimal negative significand power)
  | none =>
      let word := String.ofList body
      if word = "inf" ∨ word = "infinity" then .ok (Binary64.infinity negative)
      else if word = "nan" then .ok Binary64.nan
      else .error (.noFloat (String.ofList chars))

/-- Adds parts in base sixty, the last one first.  Sums and products are rounded one by
one, and so is the unit of each part. -/
def addSexagesimal (total : Binary64) (unit : Nat) : List Binary64 → Except ScalarError Binary64
  | [] => .ok total
  | part :: parts =>
      let factor := Binary64.ofRatio false unit 1
      if factor.isFinite then addSexagesimal (total.add (part.mul factor)) (60 * unit) parts
      else .error .unitTooLarge

def readFloatParts (chars : List Char) : Except ScalarError Binary64 := do
  if chars = ".inf".toList then return Binary64.infinity false
  if chars = ".nan".toList then return Binary64.nan
  match ← (chars.splitOn ':').mapM readFloatPart with
  | [single] => return single
  | parts => addSexagesimal (Binary64.zero false) 1 parts.reverse

def readFloat (chars : List Char) : Except ScalarError Binary64 := do
  let (negative, body) ← splitNumber (chars.map Char.toLower)
  let value ← readFloatParts body
  return if negative then value.neg else value

end AnalyticsQuery.Yaml
