import FactoryBundler.Proofs.Decimal.Shortest
import FactoryBundler.Proofs.Json.ReadNumbers

/-!
# Texts of doubles

A numeral denotes a double if that is the nearest to the number that it stands for. The shortest
numeral of a double is laid out in one of four ways: with zeros up to the point, with the point
between its digits, with zeros behind the point, or with an exponent. In each of them the text is a
numeral of the grammar for the same number, and since that number is rounded to the double, the text
denotes it. A reader rounds more than once, so it may make another double of the text; but it makes
some double of it.
-/

namespace FactoryBundler.Json

open Decimal (RoundsTo)
open Text.Utf8

variable {digits more token : List UInt8} {b : UInt8} {negative : Bool} {v : ℚ} {point : ℤ}

/-! ## Digits -/

theorem foldl_digits (digits : List UInt8) (start : ℕ) :
    digits.foldl (fun n b => n * 10 + (b.toNat - '0'.toNat)) start =
      start * 10 ^ digits.length + digitsValue digits := by
  induction digits generalizing start with
  | nil => simp [digitsValue]
  | cons b digits ih =>
      have first : digitsValue (b :: digits) =
          (b.toNat - '0'.toNat) * 10 ^ digits.length + digitsValue digits := by
        rw [digitsValue, List.foldl_cons, ih, Nat.zero_mul, Nat.zero_add]
      rw [List.foldl_cons, ih, first, List.length_cons]
      ring

theorem digitsValue_append (first second : List UInt8) :
    digitsValue (first ++ second) =
      digitsValue first * 10 ^ second.length + digitsValue second := by
  rw [digitsValue, List.foldl_append, foldl_digits]
  rfl

theorem digitsValue_singleton (b : UInt8) : digitsValue [b] = b.toNat - '0'.toNat := by
  simp [digitsValue]

/-- A digit that is not zero counts. -/
theorem digitsValue_singleton_pos (isDigit : isDigitByte b = true) (notZero : b ≠ '0'.toUInt8) :
    0 < digitsValue [b] := by
  simp only [isDigitByte, Bool.and_eq_true, decide_eq_true_eq] at isDigit
  have less := UInt8.lt_iff_toNat_lt.mp (UInt8.lt_of_le_of_ne isDigit.1 notZero.symm)
  have same : '0'.toUInt8.toNat = '0'.toNat := rfl
  rw [digitsValue_singleton]
  omega

/-- So many zeros. -/
def zeroBytes (count : ℕ) : List UInt8 :=
  List.replicate count '0'.toUInt8

theorem length_zeroBytes (count : ℕ) : (zeroBytes count).length = count :=
  List.length_replicate

theorem digitsValue_zeroBytes (count : ℕ) : digitsValue (zeroBytes count) = 0 := by
  induction count with
  | zero => rfl
  | succ count ih =>
      have split : zeroBytes (count + 1) = ['0'.toUInt8] ++ zeroBytes count := rfl
      have zero : digitsValue ['0'.toUInt8] = 0 := by decide
      rw [split, digitsValue_append, ih, zero, Nat.zero_mul]

theorem allDigits_append {first second : List UInt8} (all : AllDigits first)
    (all' : AllDigits second) : AllDigits (first ++ second) :=
  List.forall_mem_append.mpr ⟨all, all'⟩

theorem allDigits_zeroBytes (count : ℕ) : AllDigits (zeroBytes count) := by
  intro b inZeros
  rw [List.eq_of_mem_replicate inZeros]
  decide

theorem isWhole_zero : IsWhole ['0'.toUInt8] where
  all := allDigits_zeroBytes 1
  nonempty := List.cons_ne_nil _ _
  noLeadingZero := by
    rintro more ⟨⟩
    rfl

theorem isWhole_cons (all : AllDigits (b :: more)) (notZero : b ≠ '0'.toUInt8) :
    IsWhole (b :: more) where
  all := all
  nonempty := List.cons_ne_nil _ _
  noLeadingZero := by
    rintro more' ⟨⟩
    exact absurd rfl notZero

/-! ## Numerals -/

namespace Numeral

/-- The number that a numeral stands for, without its sign. -/
def magnitude (numeral : Numeral) : ℚ :=
  digitsValue (numeral.whole ++ numeral.fraction) * 10 ^ (numeral.power - numeral.fraction.length)

/-- Only behind digits that are not all zero there is an exponent. -/
def IsNormalized (numeral : Numeral) : Prop :=
  numeral.exponent = none ∨ 0 < digitsValue numeral.whole

end Numeral

/-- A numeral that denotes a double. -/
inductive IsDenotation (d : Decimal.Double) (token : List UInt8) : Prop
  | numeral {numeral : Numeral} (spelled : IsNumeral numeral token)
      (sign : numeral.negative = d.negative) (isNormalized : numeral.IsNormalized)
      (rounds : RoundsTo numeral.magnitude d)

/-! ## Layouts -/

theorem dropTrailingZeros_append_zero (digits : List Char) :
    Decimal.dropTrailingZeros (digits ++ ['0']) = Decimal.dropTrailingZeros digits := by
  simp [Decimal.dropTrailingZeros]

theorem dropTrailingZeros_append_of_ne {c : Char} (notZero : c ≠ '0') (digits : List Char) :
    Decimal.dropTrailingZeros (digits ++ [c]) = digits ++ [c] := by
  simp [Decimal.dropTrailingZeros, notZero]

/-- Without the zeros at its end, a numeral is that of a divisor. -/
theorem exists_dropTrailingZeros {n : ℕ} (positive : 0 < n) :
    ∃ m count, 0 < m ∧ n = m * 10 ^ count ∧
      (Nat.toDigits 10 n).length = (Nat.toDigits 10 m).length + count ∧
      Decimal.dropTrailingZeros (Nat.toDigits 10 n) = Nat.toDigits 10 m := by
  induction n using Nat.strongRecOn with
  | ind n ih =>
      have lastDigit : ∀ n < 10, n ≠ 0 → Nat.digitChar n ≠ '0' := by decide
      by_cases small : n < 10
      · refine ⟨n, 0, positive, by simp, rfl, ?_⟩
        have digits := dropTrailingZeros_append_of_ne (lastDigit n small positive.ne') []
        rwa [List.nil_append, ← Nat.toDigits_of_lt_base small] at digits
      · have split := Nat.toDigits_of_base_le (by decide) (Nat.not_lt.mp small)
        by_cases zero : n % 10 = 0
        · obtain ⟨m, count, positive', value, length, dropped⟩ := ih (n / 10) (by omega) (by omega)
          have more : n = n / 10 * 10 := by omega
          refine ⟨m, count + 1, positive', ?_, ?_, ?_⟩
          · rw [more, value, pow_succ, mul_assoc]
          · rw [split, List.length_append, length, List.length_singleton, Nat.add_assoc]
          · rw [split, zero, ← dropped]
            exact dropTrailingZeros_append_zero _
        · refine ⟨n, 0, positive, by simp, rfl, ?_⟩
          have digits := dropTrailingZeros_append_of_ne
            (lastDigit (n % 10) (Nat.mod_lt n (by decide)) zero) (Nat.toDigits 10 (n / 10))
          rwa [← split] at digits

section Layouts

variable {d : Decimal.Double} {whole fraction : List UInt8} {m : ℕ}

/-- Digits in front of the point and behind it. -/
theorem isDenotation_positional (isWhole : IsWhole whole) (all : AllDigits fraction)
    (nonempty : fraction ≠ [])
    (rounds : RoundsTo (digitsValue (whole ++ fraction) * 10 ^ (-(fraction.length : ℤ))) d) :
    IsDenotation d (signBytes d.negative ++ (whole ++ '.'.toUInt8 :: fraction)) := by
  have spelled : IsNumeral ⟨d.negative, whole, fraction, none⟩
      (signBytes d.negative ++ (whole ++ (fractionBytes fraction ++ []))) :=
    .parts isWhole all .none
  rw [fractionBytes, if_neg nonempty, List.append_nil] at spelled
  rw [← zero_sub] at rounds
  exact .numeral spelled rfl (Or.inl rfl) rounds

/-- Digits around the point, if there are two of them, and an exponent with its sign. -/
theorem isDenotation_scientific (isWhole : IsWhole whole) (all : AllDigits fraction)
    (notZero : 0 < digitsValue whole) {power : ℤ}
    (rounds : RoundsTo (digitsValue (whole ++ fraction) * 10 ^ (power - fraction.length)) d) :
    IsDenotation d (signBytes d.negative ++ (whole ++ (fractionBytes fraction ++
      'e'.toUInt8 :: (if power < 0 then '-' else '+').toUInt8 :: digitBytes power.natAbs))) := by
  have isMark : 'e'.toUInt8 = 'e'.toUInt8 ∨ 'e'.toUInt8 = 'E'.toUInt8 := Or.inl rfl
  have allDigits : AllDigits (digitBytes power.natAbs) := isDigitByte_digitBytes _
  have nonempty : digitBytes power.natAbs ≠ [] := by simp [digitBytes]
  have isExponent : IsExponent (some (decide (power < 0), digitBytes power.natAbs))
      ('e'.toUInt8 :: (if power < 0 then '-' else '+').toUInt8 :: digitBytes power.natAbs) := by
    split
    · next negative =>
      rw [decide_eq_true negative]
      exact .minus isMark allDigits nonempty
    · next nonnegative =>
      rw [decide_eq_false nonnegative]
      exact .plus isMark allDigits nonempty
  have isPower : Numeral.power ⟨d.negative, whole, fraction,
      some (decide (power < 0), digitBytes power.natAbs)⟩ = power := by
    rw [Numeral.power]
    dsimp only
    rw [digitsValue_digitBytes]
    split
    · next negative =>
      rw [decide_eq_true_eq] at negative
      omega
    · next nonnegative =>
      rw [decide_eq_true_eq] at nonnegative
      omega
  have spelled : IsNumeral ⟨d.negative, whole, fraction,
      some (decide (power < 0), digitBytes power.natAbs)⟩ _ := .parts isWhole all isExponent
  refine .numeral spelled rfl (Or.inr notZero) ?_
  rw [Numeral.magnitude, isPower]
  exact rounds

/-- Zeros behind the digits, up to the point. -/
theorem isDenotation_whole (positive : 0 < m) (count : ℕ)
    (rounds : RoundsTo (m * 10 ^ (count : ℤ)) d) :
    IsDenotation d (signBytes d.negative ++
      (digitBytes m ++ zeroBytes count ++ ['.'.toUInt8, '0'.toUInt8])) := by
  have all : AllDigits (digitBytes m ++ zeroBytes count) :=
    allDigits_append (isDigitByte_digitBytes m) (allDigits_zeroBytes count)
  have isWhole : IsWhole (digitBytes m ++ zeroBytes count) := by
    obtain ⟨b, more, digits, notZero⟩ := head_digitBytes positive
    rw [digits] at all ⊢
    exact isWhole_cons all notZero
  refine isDenotation_positional isWhole (allDigits_zeroBytes 1)
    (List.cons_ne_nil _ _) ?_
  have value : (digitsValue (digitBytes m ++ zeroBytes count ++ zeroBytes 1) *
      10 ^ (-((zeroBytes 1).length : ℤ)) : ℚ) = m * 10 ^ (count : ℤ) := by
    rw [digitsValue_append, digitsValue_append, digitsValue_zeroBytes, digitsValue_zeroBytes,
      digitsValue_digitBytes, length_zeroBytes, length_zeroBytes]
    push_cast
    rw [zpow_neg_one, zpow_natCast]
    field_simp
    ring
  rw [← value] at rounds
  exact rounds

/-- The point between two digits. -/
theorem isDenotation_between (positive : 0 < m) {place : ℕ} (inside : 0 < place)
    (inside' : place < (digitBytes m).length)
    (rounds : RoundsTo (m * 10 ^ ((place : ℤ) - (digitBytes m).length)) d) :
    IsDenotation d (signBytes d.negative ++ ((digitBytes m).take place ++
      '.'.toUInt8 :: (digitBytes m).drop place)) := by
  have all : AllDigits (digitBytes m) := isDigitByte_digitBytes m
  have isWhole : IsWhole ((digitBytes m).take place) := by
    obtain ⟨b, more, digits, notZero⟩ := head_digitBytes positive
    obtain ⟨before, rfl⟩ := Nat.exists_eq_add_one.mpr inside
    have all' : AllDigits ((digitBytes m).take (before + 1)) :=
      fun b inTaken => all b (List.mem_of_mem_take inTaken)
    rw [digits, List.take_succ_cons] at all' ⊢
    exact isWhole_cons all' notZero
  refine isDenotation_positional isWhole
    (fun b inDropped => all b (List.mem_of_mem_drop inDropped)) ?_ ?_
  · rw [Ne, List.drop_eq_nil_iff]
    exact Nat.not_le.mpr inside'
  · rw [List.take_append_drop, digitsValue_digitBytes, List.length_drop,
      Nat.cast_sub inside'.le, neg_sub]
    exact rounds

/-- Zeros in front of the digits, behind the point. -/
theorem isDenotation_below (count : ℕ)
    (rounds : RoundsTo (m * 10 ^ (-(count : ℤ) - (digitBytes m).length)) d) :
    IsDenotation d (signBytes d.negative ++
      (['0'.toUInt8] ++ '.'.toUInt8 :: (zeroBytes count ++ digitBytes m))) := by
  refine isDenotation_positional isWhole_zero
    (allDigits_append (allDigits_zeroBytes count) (isDigitByte_digitBytes m)) ?_ ?_
  · simp [digitBytes]
  · have value : digitsValue (['0'.toUInt8] ++ (zeroBytes count ++ digitBytes m)) = m := by
      have zero : digitsValue ['0'.toUInt8] = 0 := digitsValue_zeroBytes 1
      rw [digitsValue_append, digitsValue_append, zero, digitsValue_zeroBytes,
        digitsValue_digitBytes, Nat.zero_mul, Nat.zero_mul, Nat.zero_add, Nat.zero_add]
    rw [value, List.length_append, length_zeroBytes, Nat.cast_add, neg_add, ← sub_eq_add_neg]
    exact rounds

/-- The point behind the first digit, if it is not the only one, and an exponent. -/
theorem isDenotation_far (positive : 0 < m) (digits : digitBytes m = b :: more)
    (rounds : RoundsTo (m * 10 ^ (point - (digitBytes m).length)) d) :
    IsDenotation d (signBytes d.negative ++ ([b] ++ (fractionBytes more ++
      'e'.toUInt8 :: (if point - 1 < 0 then '-' else '+').toUInt8 ::
        digitBytes (point - 1).natAbs))) := by
  have all : AllDigits (b :: more) := digits ▸ isDigitByte_digitBytes m
  rw [AllDigits, List.forall_mem_cons] at all
  have notZero : b ≠ '0'.toUInt8 := by
    obtain ⟨b', more', digits', notZero⟩ := head_digitBytes positive
    cases digits.symm.trans digits'
    exact notZero
  refine isDenotation_scientific (isWhole_cons (by simpa [AllDigits] using all.1) notZero) all.2
    (digitsValue_singleton_pos all.1 notZero) ?_
  rw [List.singleton_append, ← digits, digitsValue_digitBytes]
  rw [digits, List.length_cons, Nat.cast_succ, add_comm, ← sub_sub] at rounds
  exact rounds

/-- The text of a numeral denotes the double that its number is rounded to. -/
theorem isDenotation_chars {numeral : Decimal.Numeral} (positive : 0 < numeral.digits)
    (rounds : RoundsTo numeral.value d) :
    IsDenotation d (signBytes d.negative ++ bytesOf numeral.chars) := by
  obtain ⟨m, count, positive', value, length, dropped⟩ := exists_dropTrailingZeros positive
  have ascii : ∀ c ∈ numeralChars, c.toNat < 0x80 := by simp [numeralChars]
  have digits : (Nat.toDigits 10 m).map Char.toUInt8 = digitBytes m := rfl
  have isLength : (Nat.toDigits 10 m).length = (digitBytes m).length := (List.length_map _).symm
  rw [bytesOf_of_lt fun c inChars => ascii c (numeral_chars_subset numeral inChars),
    Decimal.Numeral.chars, dropped]
  dsimp only
  generalize isPoint : numeral.exponent + ((Nat.toDigits 10 numeral.digits).length : ℤ) = point
  have rounds' : RoundsTo (m * 10 ^ (point - (digitBytes m).length)) d := by
    have same : numeral.exponent + count = point - (digitBytes m).length := by omega
    have sum : (m * 10 ^ (numeral.exponent + count) : ℚ) = numeral.value := by
      rw [Decimal.Numeral.value, value, zpow_add₀ (by norm_num), zpow_natCast]
      push_cast
      ring
    rwa [← same, sum]
  rw [isLength]
  split
  · next near =>
    obtain ⟨place, rfl⟩ := Int.eq_ofNat_of_zero_le near.1.le
    have inside : 0 < place := by omega
    rw [Int.toNat_natCast]
    split
    · next short =>
      have denotes := isDenotation_whole positive' (place - (digitBytes m).length)
        (by rwa [Nat.cast_sub short])
      simpa [zeroBytes, ← digits] using denotes
    · next long =>
      have denotes := isDenotation_between positive' inside (Nat.not_le.mp long) rounds'
      simpa [← digits] using denotes
  · split
    · next near =>
      obtain ⟨zeros, isZeros⟩ := Int.eq_ofNat_of_zero_le (neg_nonneg.mpr near.2)
      obtain rfl : point = -zeros := by omega
      have denotes := isDenotation_below zeros rounds'
      simpa [zeroBytes, ← digits] using denotes
    · next far =>
      obtain ⟨c, more, shown⟩ :=
        List.exists_cons_of_ne_nil (List.ne_nil_of_length_pos (@Nat.length_toDigits_pos 10 m))
      rw [shown, List.map_cons] at digits
      have denotes := isDenotation_far positive' digits.symm rounds'
      have exponent : (Nat.toDigits 10 (point - 1).natAbs).map Char.toUInt8 =
          digitBytes (point - 1).natAbs := rfl
      rw [shown]
      cases more with
      | nil => simpa [fractionBytes, ← exponent] using denotes
      | cons c' more => simpa [fractionBytes, ← exponent] using denotes

end Layouts

/-! ## Doubles -/

theorem bytesOf_numberChars_double (d : Decimal.Double) :
    bytesOf (numberChars (.double d)) = signBytes d.negative ++
      bytesOf (if d.significand = 0 then ['0', '.', '0']
        else (Decimal.shortest d.significand d.exponent).chars) := by
  have minus : bytesOf ['-'] = ['-'.toUInt8] := rfl
  rw [numberChars, Decimal.Double.chars, bytesOf_append]
  cases d.negative <;> simp [signBytes, minus]

/-- A double of the format is denoted by its shortest text. -/
theorem isDenotation_double {d : Decimal.Double} (inFormat : d.InFormat) :
    IsDenotation d (bytesOf (numberChars (.double d))) := by
  rw [bytesOf_numberChars_double]
  by_cases zero : d.significand = 0
  · have point : bytesOf ['0', '.', '0'] = ['0'.toUInt8] ++ '.'.toUInt8 :: zeroBytes 1 := rfl
    rw [if_pos zero, point]
    refine isDenotation_positional isWhole_zero (allDigits_zeroBytes 1)
      (List.cons_ne_nil _ _) ?_
    have none : digitsValue (['0'.toUInt8] ++ zeroBytes 1) = 0 := digitsValue_zeroBytes 2
    rw [none, Nat.cast_zero, zero_mul]
    exact Decimal.roundsTo_zero zero
  · have nonzero := Nat.pos_of_ne_zero zero
    have rounds := Decimal.roundsTo_shortest inFormat nonzero
    have positive := Decimal.pos_of_roundsTo nonzero rounds
    rw [if_neg zero]
    refine isDenotation_chars (Nat.pos_of_ne_zero fun none => ?_) rounds
    rw [Decimal.Numeral.value, none, Nat.cast_zero, zero_mul] at positive
    exact absurd positive (lt_irrefl 0)

/-- Doubles that are read are of the format, whatever the numeral. -/
theorem inFormat_of_isNumber {d : Decimal.Double} (isNumber : IsNumber (.double d) token) :
    d.InFormat := by
  have doubled {numeral : Numeral}
      (made : numeral.double?.map Number.double = some (.double d)) : d.InFormat := by
    obtain ⟨d', isDouble, same⟩ := Option.map_eq_some_iff.mp made
    cases same
    exact Decimal.Double.inFormat_of_ofDecimal isDouble
  have valued {numeral : Numeral} (made : numeral.value = some (.double d)) : d.InFormat := by
    rw [Numeral.value.eq_def] at made
    split at made
    · split at made
      · cases made
      · split at made
        · cases made
        · exact doubled made
    · exact doubled made
  obtain ⟨-, made⟩ := isNumber
  rw [Numeral.number?] at made
  split at made
  · exact valued made
  · split at made
    · exact valued made
    · split at made
      · cases made
        exact Decimal.inFormat_zero _
      · cases made

end FactoryBundler.Json
