import AnalyticsQuery.Binary64.Basic

/-!
# Sums and products of binary floating-point numbers

The exact sum or product of two finite numbers is a quotient, and the result is the
number nearest to it.
-/

namespace AnalyticsQuery.Binary64

/-- Gives a number the opposite sign. -/
def neg (number : Binary64) : Binary64 :=
  if number.isNaN then number
  else ⟨UInt64.ofNat (signBit (!number.isNegative) + number.bits.toNat % Nat.pow 2 63)⟩

/-- Numerator of a finite number over the denominator of its ratio. -/
def signedNumerator (number : Binary64) : Int :=
  if number.isNegative then -(number.ratio.1 : Int) else number.ratio.1

/-- The sum; one of two numbers that cancel out is zero, with a minus only if both
have one. -/
def add (left right : Binary64) : Binary64 :=
  if left.isNaN || right.isNaN then nan
  else if !left.isFinite then
    if right.isFinite || left.isNegative == right.isNegative then left else nan
  else if !right.isFinite then right
  else
    let (leftDenominator, rightDenominator) := (left.ratio.2, right.ratio.2)
    let sum := left.signedNumerator * rightDenominator + right.signedNumerator * leftDenominator
    let negative := if sum = 0 then left.isNegative && right.isNegative else decide (sum < 0)
    ofRatio negative sum.natAbs (leftDenominator * rightDenominator)

/-- The product; an infinite number times zero is no number. -/
def mul (left right : Binary64) : Binary64 :=
  let negative := left.isNegative != right.isNegative
  if left.isNaN || right.isNaN then nan
  else if left.isFinite && right.isFinite then
    ofRatio negative (left.ratio.1 * right.ratio.1) (left.ratio.2 * right.ratio.2)
  else if left.significand = 0 || right.significand = 0 then nan
  else infinity negative

end AnalyticsQuery.Binary64
