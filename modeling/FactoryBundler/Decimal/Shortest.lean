import FactoryBundler.Decimal.Double

/-!
# The shortest decimal text of a double

The fewest significant digits that read back as the same double and, of the numerals with that
many digits, the one nearest to it. All numerals that read back lie in one interval around the
double; a decimal grid with a given number of digits meets the interval exactly if one of the two
grid points next to the double does, so these two are tried for one digit, two digits and so on
up to seventeen, which always suffice.
-/

namespace FactoryBundler.Decimal

/-- A decimal numeral `digits · 10 ^ exponent`. -/
structure Numeral where
  digits : Nat
  exponent : Int
deriving Repr, DecidableEq

/-- `a · 10 ^ x` compared with `b · 2 ^ y`, both sides brought to whole numbers. -/
def compareDecimalBinary (a : Nat) (x : Int) (b : Nat) (y : Int) : Ordering :=
  compare (a * tenTo x.toNat * twoTo (-y).toNat) (b * twoTo y.toNat * tenTo (-x).toNat)

/-- The bounds of the numerals that read back as a double with this significand and exponent, in
quarters of the last place. Below a power of two the neighbour is only half as far. -/
def readBackBounds (significand : Nat) (exponent : Int) : Nat × Nat :=
  if significand == twoTo 52 && exponent > leastExponent then
    (4 * significand - 1, 4 * significand + 2)
  else (4 * significand - 2, 4 * significand + 2)

/-- Whether a numeral reads back as the double. The bounds themselves round to the even
significand. -/
def readsBack (numeral : Numeral) (significand : Nat) (exponent : Int) : Bool :=
  let (low, high) := readBackBounds significand exponent
  let below := compareDecimalBinary numeral.digits numeral.exponent low (exponent - 2)
  let above := compareDecimalBinary numeral.digits numeral.exponent high (exponent - 2)
  if significand % 2 == 0 then below != .lt && above != .gt else below == .gt && above == .lt

/-- The largest multiple of `10 ^ place` that is not above the double, counted in that unit. -/
def floorAt (significand : Nat) (exponent place : Int) : Nat :=
  (significand * twoTo exponent.toNat * tenTo (-place).toNat) /
    (tenTo place.toNat * twoTo (-exponent).toNat)

/-- The number of digits before the decimal point of a positive double, or for a number below one
minus the number of zeros after the point. -/
def pointPosition (significand : Nat) (exponent : Int) : Int :=
  let guess : Int := ((significand.log2 : Int) + exponent) * 30103 / 100000
  if compareDecimalBinary 1 guess significand exponent == .gt then guess
  else if compareDecimalBinary 1 (guess + 1) significand exponent == .gt then guess + 1
  else guess + 2

/-- The nearer of the two grid points next to the double, of those that read back. An exact tie
goes to the even digit. -/
def atPlace (significand : Nat) (exponent place : Int) : Option Numeral :=
  let down := floorAt significand exponent place
  let lower : Numeral := ⟨down, place⟩
  let upper : Numeral := ⟨down + 1, place⟩
  match readsBack lower significand exponent, readsBack upper significand exponent with
  | false, false => none
  | true, false => some lower
  | false, true => some upper
  | true, true =>
    match compareDecimalBinary (2 * down + 1) place (2 * significand) exponent with
    | .gt => some lower
    | .lt => some upper
    | .eq => some (if down % 2 == 0 then lower else upper)

/-- The first grid that meets the interval, trying `tries` more digit counts from `count` on. -/
def firstGrid (significand : Nat) (exponent point : Int) : Nat → Nat → Numeral
  | 0, count => ⟨floorAt significand exponent (point - count), point - count⟩
  | tries + 1, count =>
    match atPlace significand exponent (point - count) with
    | some numeral => numeral
    | none => firstGrid significand exponent point tries (count + 1)

/-- The shortest numeral that reads back as a positive double, the nearest of that length. -/
def shortest (significand : Nat) (exponent : Int) : Numeral :=
  firstGrid significand exponent (pointPosition significand exponent) 17 1

/-- A list without the zeros at its end. -/
def dropTrailingZeros (digits : List Char) : List Char :=
  (digits.reverse.dropWhile (· == '0')).reverse

/-- The text of a positive numeral: positional while the point falls inside the first sixteen
digits or at most four zeros follow it, with `.0` for a whole number, and otherwise scientific
with a signed exponent. -/
def Numeral.chars (numeral : Numeral) : List Char :=
  let written := Nat.toDigits 10 numeral.digits
  let digits := dropTrailingZeros written
  let point : Int := numeral.exponent + written.length
  if 0 < point ∧ point ≤ 16 then
    let whole := point.toNat
    if digits.length ≤ whole then
      digits ++ List.replicate (whole - digits.length) '0' ++ ['.', '0']
    else digits.take whole ++ ['.'] ++ digits.drop whole
  else if -5 < point ∧ point ≤ 0 then
    ['0', '.'] ++ List.replicate (-point).toNat '0' ++ digits
  else
    let mantissa :=
      match digits with
      | [] => []
      | [d] => [d]
      | d :: more => d :: '.' :: more
    let power := point - 1
    mantissa ++ ['e', if power < 0 then '-' else '+'] ++ Nat.toDigits 10 power.natAbs

/-- The shortest text that reads back as the double; zero is `0.0`, and a minus sign marks every
negative number, zero included. -/
def Double.chars (d : Double) : List Char :=
  (if d.negative then ['-'] else []) ++
    if d.significand == 0 then ['0', '.', '0']
    else (shortest d.significand d.exponent).chars

end FactoryBundler.Decimal
