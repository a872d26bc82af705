/-!
# Binary floating-point numbers

A 64-bit binary floating-point number is kept as its bit pattern, so that
equality is decidable and tells the two zeros apart.  A finite number is read as
`significand · 2 ^ exponent`.
-/

namespace AnalyticsQuery

structure Binary64 where
  bits : UInt64
  deriving DecidableEq, Repr

namespace Binary64

def isNegative (number : Binary64) : Bool := number.bits.toNat ≥ Nat.pow 2 63

def exponentField (number : Binary64) : Nat := number.bits.toNat / Nat.pow 2 52 % Nat.pow 2 11

def fractionField (number : Binary64) : Nat := number.bits.toNat % Nat.pow 2 52

def isFinite (number : Binary64) : Bool := number.exponentField != 2047

def isNaN (number : Binary64) : Bool := !number.isFinite && number.fractionField != 0

/-- The whole number that the power of two multiplies. -/
def significand (number : Binary64) : Nat :=
  if number.exponentField = 0 then number.fractionField
  else Nat.pow 2 52 + number.fractionField

def exponent (number : Binary64) : Int :=
  if number.exponentField = 0 then -1074 else number.exponentField - 1075

/-- Numerator and denominator of the size of a finite number. -/
def ratio (number : Binary64) : Nat × Nat :=
  (number.significand * Nat.pow 2 number.exponent.toNat, Nat.pow 2 (-number.exponent).toNat)

/-- The whole number that a finite number equals, if it is one. -/
def whole? (number : Binary64) : Option Int :=
  let (numerator, denominator) := number.ratio
  if number.isFinite && numerator % denominator == 0 then
    let size := numerator / denominator
    some (if number.isNegative then -(size : Int) else size)
  else none

def signBit (negative : Bool) : Nat := if negative then Nat.pow 2 63 else 0

def infinity (negative : Bool) : Binary64 :=
  ⟨UInt64.ofNat (signBit negative + 2047 * Nat.pow 2 52)⟩

/-- The number that stands for no number. -/
def nan : Binary64 := ⟨UInt64.ofNat (2047 * Nat.pow 2 52 + Nat.pow 2 51)⟩

def zero (negative : Bool) : Binary64 := ⟨UInt64.ofNat (signBit negative)⟩

/-- Nearest whole number to a quotient; of two, the even one. -/
def roundHalfEven (numerator denominator : Nat) : Nat :=
  let floor := numerator / denominator
  let twice := 2 * (numerator % denominator)
  if twice < denominator then floor
  else if twice > denominator then floor + 1
  else floor + floor % 2

/-- Exponent of the last place of the number nearest to a positive quotient. -/
def placeOf (numerator denominator : Nat) : Int :=
  let estimate : Int := (numerator.log2 : Int) - (denominator.log2 : Int) - 52
  let significandAt (place : Int) : Nat :=
    numerator * Nat.pow 2 (-place).toNat / (denominator * Nat.pow 2 place.toNat)
  max (-1074) (if significandAt estimate < Nat.pow 2 52 then estimate - 1 else estimate)

/-- The number nearest to a quotient with a positive denominator. -/
def ofRatio (negative : Bool) (numerator denominator : Nat) : Binary64 :=
  if numerator = 0 then zero negative
  else
    let place := placeOf numerator denominator
    let significand :=
      roundHalfEven (numerator * Nat.pow 2 (-place).toNat) (denominator * Nat.pow 2 place.toNat)
    -- A significand that rounds up to the next power of two carries into the exponent.
    let size := (place + 1074).toNat * Nat.pow 2 52 + significand
    if size < 2047 * Nat.pow 2 52 then ⟨UInt64.ofNat (signBit negative + size)⟩
    else infinity negative

/-- The number nearest to `significand · 10 ^ power`. -/
def ofDecimal (negative : Bool) (significand : Nat) (power : Int) : Binary64 :=
  if significand = 0 ∨ power + (Nat.toDigits 10 significand).length < -400 then zero negative
  else if power > 400 then infinity negative
  else ofRatio negative (significand * Nat.pow 10 power.toNat) (Nat.pow 10 (-power).toNat)

end Binary64

end AnalyticsQuery
