/-!
# Double-precision numbers

The finite numbers of the 64-bit binary format as exact integers, with the operations on them that
give decimal numerals their values. Every operation rounds its exact result once, to the nearest
representable number, a tie going to the even significand. A numeral takes several of them: its
digits are rounded, and so is their product with a power of ten, which is rounded itself. No
floating-point operation is involved, so every result can be computed and reasoned about with
natural numbers.
-/

namespace FactoryBundler.Decimal

/-- A power of two. -/
def twoTo (exponent : Nat) : Nat := Nat.pow 2 exponent

/-- A power of ten. -/
def tenTo (exponent : Nat) : Nat := Nat.pow 10 exponent

/-- The number `±significand · 2 ^ exponent`. Below `2 ^ 52` the significand is that of a
subnormal number or of zero, and the exponent is `-1074`. -/
structure Double where
  negative : Bool
  significand : Nat
  exponent : Int
deriving Repr, DecidableEq, BEq

/-- The least exponent of a double. -/
def leastExponent : Int := -1074

/-- The greatest exponent of a double. -/
def greatestExponent : Int := 971

/-- Zero with a sign. -/
def Double.zero (negative : Bool) : Double :=
  ⟨negative, 0, leastExponent⟩

/-- The quotient rounded to the nearest natural number, a tie going to the even one. -/
def roundDiv (numerator denominator : Nat) : Nat :=
  let quotient := numerator / denominator
  let twice := 2 * (numerator % denominator)
  if twice > denominator || (twice == denominator && quotient % 2 == 1) then quotient + 1
  else quotient

/-- `numerator / (denominator · 2 ^ exponent)` as a fraction of natural numbers. -/
def scaled (numerator denominator : Nat) (exponent : Int) : Nat × Nat :=
  if 0 ≤ exponent then (numerator, denominator * twoTo exponent.toNat)
  else (numerator * twoTo (-exponent).toNat, denominator)

/-- The exponent at which a positive fraction has a significand of 53 bits, or the least exponent
if that is greater. -/
def exponentOf (numerator denominator : Nat) : Int :=
  let guess : Int := (numerator.log2 : Int) - denominator.log2 - 52
  let (top, bottom) := scaled numerator denominator guess
  max leastExponent (if top < bottom * twoTo 52 then guess - 1 else guess)

/-- The double nearest to a positive fraction, or none if it is too large for any. -/
def nearest (negative : Bool) (numerator denominator : Nat) : Option Double :=
  let exponent := exponentOf numerator denominator
  let (top, bottom) := scaled numerator denominator exponent
  let significand := roundDiv top bottom
  let (significand, exponent) :=
    if significand == twoTo 53 then (twoTo 52, exponent + 1) else (significand, exponent)
  if exponent > greatestExponent then none else some ⟨negative, significand, exponent⟩

namespace Double

/-- The double nearest to a fraction, or none if it is too large for any. -/
def ofFraction (numerator denominator : Nat) : Option Double :=
  if numerator == 0 then some (.zero false) else nearest false numerator denominator

/-- The product of two doubles without their signs, or none if it is too large for any. -/
def times? (first second : Double) : Option Double :=
  let exponent := first.exponent + second.exponent
  ofFraction (first.significand * second.significand * twoTo exponent.toNat)
    (twoTo (-exponent).toNat)

/-- The quotient of two doubles without their signs, or none if it is too large for any. -/
def over? (first second : Double) : Option Double :=
  let exponent := first.exponent - second.exponent
  ofFraction (first.significand * twoTo exponent.toNat)
    (second.significand * twoTo (-exponent).toNat)

/-- The greatest power of ten that is a double up to rounding. -/
def greatestPower : Nat := 308

/-- The double nearest to a power of ten. -/
def powerOfTen? (power : Nat) : Option Double :=
  ofFraction (tenTo power) 1

/-- A double times a power of ten, or none if it is too large for any. -/
def raise? (double : Double) (power : Nat) : Option Double :=
  if power ≤ greatestPower then do double.times? (← powerOfTen? power)
  else if double.significand == 0 then some double
  else none

/-- A double divided by a power of ten. If there is no such power it is divided by the greatest one
as long as something is left. -/
def lower? (double : Double) (power : Nat) : Option Double :=
  if power ≤ greatestPower then do double.over? (← powerOfTen? power)
  else if double.significand == 0 then some double
  else do (← double.over? (← powerOfTen? greatestPower)).lower? (power - greatestPower)
termination_by power
decreasing_by simp only [greatestPower] at *; omega

/-- A double times a power of ten that may be a fraction, or none if it is too large for any. -/
def shift? (double : Double) (exponent : Int) : Option Double :=
  if 0 ≤ exponent then double.raise? exponent.toNat else double.lower? (-exponent).toNat

/-- What `±significand · 10 ^ exponent` comes to, or none if it is too large for any double. -/
def ofDecimal (negative : Bool) (significand : Nat) (exponent : Int) : Option Double := do
  let shifted ← (← ofFraction significand 1).shift? exponent
  return { shifted with negative := negative }

end Double

end FactoryBundler.Decimal
