import FactoryBundler.Json.Fault
import FactoryBundler.Json.Value

/-!
# Numerals

Scanning a JSON number and giving it its value. A numeral without fraction and exponent that fits
64 bits is an integer; minus zero and every other numeral is a double. Of its digits no more count
than fit 64 bits, so the double need not be the one that is nearest to the number.
-/

namespace FactoryBundler.Json

/-- An ASCII digit. -/
def isDigitByte (b : UInt8) : Bool :=
  '0'.toUInt8 ≤ b && b ≤ '9'.toUInt8

/-- The digits at the front of a text, and the rest. -/
def spanDigits (input : List UInt8) : List UInt8 × List UInt8 :=
  (input.takeWhile isDigitByte, input.dropWhile isDigitByte)

/-- The number that digits spell. -/
def digitsValue (digits : List UInt8) : Nat :=
  digits.foldl (fun n b => n * 10 + (b.toNat - '0'.toNat)) 0

/-- The parts of a number as written: whole digits, digits after the point, and the sign and
digits of the exponent. -/
structure Numeral where
  negative : Bool
  whole : List UInt8
  fraction : List UInt8
  exponent : Option (Bool × List UInt8)
deriving Repr, DecidableEq

/-- The whole digits: a zero, or digits that begin with another one. A missing digit at the end of
the text is reported as `atEnd`. -/
def scanWhole (atEnd : Cause) : List UInt8 → Reading (List UInt8)
  | [] => .error ⟨atEnd, []⟩
  | b :: rest =>
    if b == '0'.toUInt8 then
      match rest with
      | d :: more => if isDigitByte d then .error ⟨.invalidNumber, more⟩ else .ok ([b], rest)
      | [] => .ok ([b], rest)
    else if isDigitByte b then .ok (spanDigits (b :: rest))
    else .error ⟨.invalidNumber, rest⟩

/-- The digits after a point, at least one if there is a point. -/
def scanFraction (atEnd : Cause) : List UInt8 → Reading (List UInt8)
  | [] => .ok ([], [])
  | b :: rest =>
    if b == '.'.toUInt8 then
      match spanDigits rest with
      | ([], []) => .error ⟨atEnd, []⟩
      | ([], _ :: more) => .error ⟨.invalidNumber, more⟩
      | (digits, more) => .ok (digits, more)
    else .ok ([], b :: rest)

/-- An exponent with its sign, true for minus, and at least one digit. -/
def scanExponent (atEnd : Cause) : List UInt8 → Reading (Option (Bool × List UInt8))
  | [] => .ok (none, [])
  | b :: rest =>
    if b == 'e'.toUInt8 || b == 'E'.toUInt8 then
      let (minus, rest) :=
        match rest with
        | s :: more =>
          if s == '+'.toUInt8 then (false, more)
          else if s == '-'.toUInt8 then (true, more)
          else (false, rest)
        | [] => (false, rest)
      match rest with
      | [] => .error ⟨atEnd, []⟩
      | d :: more =>
        if isDigitByte d then
          let (digits, rest) := spanDigits (d :: more)
          .ok (some (minus, digits), rest)
        else .error ⟨.invalidNumber, more⟩
    else .ok (none, b :: rest)

/-- The parts of a number, from its sign on. -/
def scanNumeral (atEnd : Cause) (input : List UInt8) :
    Except (Fault Cause) (Numeral × List UInt8) := do
  let (negative, rest) :=
    match input with
    | b :: rest => if b == '-'.toUInt8 then (true, rest) else (false, input)
    | [] => (false, input)
  let (whole, rest) ← scanWhole atEnd rest
  let (fraction, rest) ← scanFraction atEnd rest
  let (exponent, rest) ← scanExponent atEnd rest
  return (⟨negative, whole, fraction, exponent⟩, rest)

/-- The greatest exponent that is counted; a reader gives up at the digit that exceeds it. -/
def greatestCounted : Nat := 2147483647

/-- How many of the digits it takes to exceed the greatest exponent that is counted, if they do;
`value` is that of the digits before. -/
def exceedsAfter (value : Nat) : List UInt8 → Option Nat
  | [] => none
  | b :: rest =>
    let value := value * 10 + (b.toNat - '0'.toNat)
    if value > greatestCounted then some 1 else (exceedsAfter value rest).map (· + 1)

/-- Count digits behind those that make up `value`, as long as the number fits 64 bits. The number
that was counted, and how many digits are left. -/
def countDigits (value : Nat) : List UInt8 → Nat × Nat
  | [] => (value, 0)
  | b :: rest =>
    let next := value * 10 + (b.toNat - '0'.toNat)
    if next < Decimal.twoTo 64 then countDigits next rest else (value, rest.length + 1)

/-- The exponent as a number. -/
def Numeral.power (numeral : Numeral) : Int :=
  match numeral.exponent with
  | none => 0
  | some (minus, digits) => if minus then -(digitsValue digits) else digitsValue digits

/-- The value of a numeral as a double. Whole digits that were not counted raise the exponent, and
every digit behind the point that was counted lowers it. -/
def Numeral.double? (numeral : Numeral) : Option Decimal.Double :=
  let (whole, uncounted) := countDigits 0 numeral.whole
  let (significand, ignored) := countDigits whole numeral.fraction
  Decimal.Double.ofDecimal numeral.negative significand
    (numeral.power + uncounted - (numeral.fraction.length - ignored : Nat))

/-- The value of a numeral whose exponent can be counted, or none if it is out of range. -/
def Numeral.value (numeral : Numeral) : Option Number :=
  match numeral.fraction, numeral.exponent, countDigits 0 numeral.whole with
  | [], none, (n, 0) =>
    if !numeral.negative then some (.integer n)
    else if 0 < n ∧ n ≤ Decimal.twoTo 63 then some (.integer (-n))
    else numeral.double?.map .double
  | _, _, _ => numeral.double?.map .double

/-- Read a number. One that is too large is out of range; one that is too small is a zero. -/
def readNumber (input : List UInt8) : Except (Fault Cause) (Number × List UInt8) := do
  let (numeral, rest) ← scanNumeral .endInValue input
  let excess :=
    match numeral.exponent with
    | some (minus, digits) => (exceedsAfter 0 digits).map fun count => (minus, digits.drop count)
    | none => none
  match excess with
  | some (minus, unread) =>
    if !minus && digitsValue (numeral.whole ++ numeral.fraction) != 0 then
      .error ⟨.numberOutOfRange, unread ++ rest⟩
    else .ok (.double (.zero numeral.negative), rest)
  | none =>
    match numeral.value with
    | some value => .ok (value, rest)
    | none => .error ⟨.numberOutOfRange, rest⟩

end FactoryBundler.Json
