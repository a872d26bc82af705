import AnalyticsQuery.Binary64.Basic
import AnalyticsQuery.Text.Numeral

/-!
# Shortest decimal text of a floating-point number

A finite number is written with the fewest decimal digits that read back as the
same number; among those the digits nearest to its exact value are taken.
Everything is decided in exact arithmetic on whole numbers.
-/

namespace AnalyticsQuery.Binary64

/-- A positive decimal number `0.d₁d₂… · 10 ^ point`. -/
structure Decimal where
  digits : List Char
  point : Int
  deriving DecidableEq, Repr

/-- Four times the value and its rounding bounds, over a common denominator. -/
structure Interval where
  low : Nat
  value : Nat
  high : Nat
  denominator : Nat
  closed : Bool

/-- All reals strictly between the bounds round to the number; the bounds
themselves do when its significand is even. -/
def interval (number : Binary64) : Interval :=
  let scale := Nat.pow 2 number.exponent.toNat
  let narrow := number.fractionField = 0 ∧ number.exponentField > 1
  { low := (4 * number.significand - if narrow then 1 else 2) * scale
    value := 4 * number.significand * scale
    high := (4 * number.significand + 2) * scale
    denominator := 4 * Nat.pow 2 (-number.exponent).toNat
    closed := number.significand % 2 = 0 }

def Interval.holds (bounds : Interval) (numerator denominator : Nat) : Bool :=
  let low := bounds.low * denominator
  let high := bounds.high * denominator
  let point := numerator * bounds.denominator
  if bounds.closed then low ≤ point && point ≤ high else low < point && point < high

/-- The power of ten just above the value: `10 ^ (p - 1) ≤ value < 10 ^ p`. -/
def Interval.pointOf (bounds : Interval) : Int :=
  (Nat.toDigits 10 (bounds.value * Nat.pow 10 340 / bounds.denominator)).length - 340

/-- The grid point with `count` digits that lies in the interval.  If both
neighbours of the value do, the nearer one counts, and of two at the same distance
the even one. -/
def Interval.candidate? (bounds : Interval) (point : Int) (count : Nat) : Option Nat :=
  let up := Nat.pow 10 (count - point).toNat
  let down := Nat.pow 10 (point - count).toNat
  let step := bounds.denominator * down
  let floor := bounds.value * up / step
  let twice := 2 * (bounds.value * up % step)
  let inside (grid : Nat) : Bool := bounds.holds (grid * down) up
  let nearerBelow := twice < step || (twice = step && floor % 2 = 0)
  if inside floor && (nearerBelow || !inside (floor + 1)) then some floor
  else if inside (floor + 1) then some (floor + 1)
  else none

/-- Decimal with trailing zeros removed; a carry into a new digit moves the point. -/
def Decimal.ofGrid (point : Int) (count grid : Nat) : Decimal :=
  let digits := Numeral.digits grid
  { digits := (digits.reverse.dropWhile (· == '0')).reverse
    point := point + (digits.length - count) }

/-- Shortest decimal that reads back as a positive finite number; 17 digits are
always enough. -/
def shortest (number : Binary64) : Decimal :=
  let bounds := number.interval
  let point := bounds.pointOf
  match (List.range' 1 17).findSome? fun count =>
      (bounds.candidate? point count).map (Decimal.ofGrid point count) with
  | some decimal => decimal
  | none => ⟨['0'], 1⟩

/-- How a decimal is laid out as text. -/
structure Layout where
  /-- Smallest and largest power of ten of the first digit written without an exponent. -/
  positionalFrom : Int
  positionalTo : Int
  /-- Least number of digits of an exponent. -/
  exponentWidth : Nat

def Layout.exponentText (layout : Layout) (power : Int) : String :=
  (if power < 0 then "e-" else "e+") ++ Numeral.padded layout.exponentWidth power.natAbs

def Layout.positional (decimal : Decimal) : String :=
  if decimal.point ≤ 0 then
    "0." ++ String.ofList (List.replicate (-decimal.point).toNat '0' ++ decimal.digits)
  else
    let wholeCount := decimal.point.toNat
    let whole := decimal.digits.take wholeCount ++
      List.replicate (wholeCount - decimal.digits.length) '0'
    let fraction := decimal.digits.drop wholeCount
    String.ofList (whole ++ '.' :: (if fraction.isEmpty then ['0'] else fraction))

def Layout.scientific (layout : Layout) (decimal : Decimal) : String :=
  let mantissa := match decimal.digits with
    | [] => ['0']
    | [digit] => [digit]
    | digit :: fraction => digit :: '.' :: fraction
  String.ofList mantissa ++ layout.exponentText (decimal.point - 1)

def Layout.text (layout : Layout) (decimal : Decimal) : String :=
  let power := decimal.point - 1
  if layout.positionalFrom ≤ power ∧ power ≤ layout.positionalTo then
    Layout.positional decimal
  else layout.scientific decimal

/-- Exponents from -4 to 15 are written out; others have a sign and two digits. -/
def layout : Layout := ⟨-4, 15, 2⟩

def text (number : Binary64) : String :=
  let sign := if number.isNegative then "-" else ""
  if number.isNaN then "nan"
  else if !number.isFinite then sign ++ "inf"
  else if number.significand = 0 then sign ++ "0.0"
  else sign ++ layout.text number.shortest

end AnalyticsQuery.Binary64
