import FactoryBundler.Json.Numeral
import FactoryBundler.Proofs.Json.Layout
import FactoryBundler.Proofs.Text.Utf8
import Mathlib.Data.List.TakeWhile

/-!
# Integers read back as they were written

An integer is written as its decimal digits, so no fraction and no exponent follow. A reader takes
digits for as long as it finds them: the integer is read back only if what comes after it does not
continue the numeral.
-/

namespace FactoryBundler.Json

open Text.Utf8

variable {n : Nat} {rest : List UInt8}

/-- A byte with which a reader would go on with a whole number. -/
def continuesNumber (b : UInt8) : Bool :=
  isDigitByte b || b == '.'.toUInt8 || b == 'e'.toUInt8 || b == 'E'.toUInt8

/-- A text that does not continue a whole number written before it. -/
def EndsNumber (rest : List UInt8) : Prop :=
  ∀ b ∈ rest.head?, continuesNumber b = false

theorem endsNumber_nil : EndsNumber [] := by
  intro b h
  cases h

theorem endsNumber_cons {b : UInt8} (h : continuesNumber b = false) : EndsNumber (b :: rest) := by
  intro other isHead
  rw [List.head?_cons, Option.mem_some_iff] at isHead
  exact isHead ▸ h

/-- The decimal digits of a number as bytes. -/
def digitBytes (n : Nat) : List UInt8 :=
  (Nat.toDigits 10 n).map Char.toUInt8

theorem bytesOf_toDigits (n : Nat) : bytesOf (Nat.toDigits 10 n) = digitBytes n := by
  apply bytesOf_of_lt
  intro c h
  have := toNat_of_isDigit (isDigit_of_mem h)
  omega

theorem isDigitByte_digitBytes (n : Nat) : ∀ b ∈ digitBytes n, isDigitByte b = true := by
  intro b h
  obtain ⟨c, inDigits, rfl⟩ := List.mem_map.mp h
  exact forall_isDigit (p := fun c => isDigitByte c.toUInt8 = true) (by decide)
    (isDigit_of_mem inDigits)

/-- The digits of a number spell it. -/
theorem digitsValue_digitBytes (n : Nat) : digitsValue (digitBytes n) = n := by
  have value (chars : List Char) (digits : ∀ c ∈ chars, c.isDigit = true) (start : Nat) :
      (chars.map Char.toUInt8).foldl (fun n b => n * 10 + (b.toNat - '0'.toNat)) start =
        Nat.ofDigitChars 10 chars start := by
    induction chars generalizing start with
    | nil => rfl
    | cons c chars ih =>
        rw [List.forall_mem_cons] at digits
        have same : c.toUInt8.toNat = c.toNat :=
          forall_isDigit (p := fun c => c.toUInt8.toNat = c.toNat) (by decide) digits.1
        rw [List.map_cons, List.foldl_cons, ih digits.2, Nat.ofDigitChars_cons, same, Nat.mul_comm]
  rw [digitsValue, digitBytes, value _ (fun c h => isDigit_of_mem h),
    Nat.ofDigitChars_ten_toDigits]

/-- A positive number has no zero in front. -/
theorem head_digitBytes (positive : 0 < n) :
    ∃ b more, digitBytes n = b :: more ∧ b ≠ '0'.toUInt8 := by
  induction n using Nat.strongRecOn with
  | ind n ih =>
      by_cases small : n < 10
      · have notZero : ∀ n < 10, 0 < n → (Nat.digitChar n).toUInt8 ≠ '0'.toUInt8 := by decide
        refine ⟨(Nat.digitChar n).toUInt8, [], ?_, notZero n small positive⟩
        rw [digitBytes, Nat.toDigits_of_lt_base small, List.map_singleton]
      · obtain ⟨b, more, digits, notZero⟩ := ih (n / 10) (by omega) (by omega)
        refine ⟨b, more ++ [(Nat.digitChar (n % 10)).toUInt8], ?_, notZero⟩
        rw [digitBytes, Nat.toDigits_of_base_le (by decide) (Nat.not_lt.mp small), List.map_append,
          ← digitBytes, digits, List.cons_append, List.map_singleton]

/-! ## Scanning -/

theorem not_isDigitByte_head (ends : EndsNumber rest) :
    ∀ b ∈ rest.head?, isDigitByte b = false := by
  intro b isHead
  have stops := ends b isHead
  simp only [continuesNumber, Bool.or_eq_false_iff] at stops
  exact stops.1.1.1

theorem spanDigits_append_of_stops {digits : List UInt8} (all : ∀ b ∈ digits, isDigitByte b = true)
    (stops : ∀ b ∈ rest.head?, isDigitByte b = false) :
    spanDigits (digits ++ rest) = (digits, rest) := by
  rw [spanDigits, List.takeWhile_append_of_pos all, List.dropWhile_append_of_pos all]
  cases rest with
  | nil => simp
  | cons b rest => simp [stops b rfl]

theorem spanDigits_append {digits : List UInt8} (all : ∀ b ∈ digits, isDigitByte b = true)
    (ends : EndsNumber rest) : spanDigits (digits ++ rest) = (digits, rest) :=
  spanDigits_append_of_stops all (not_isDigitByte_head ends)

theorem scanWhole_digitBytes (atEnd : Cause) (n : Nat) (ends : EndsNumber rest) :
    scanWhole atEnd (digitBytes n ++ rest) = .ok (digitBytes n, rest) := by
  have all := isDigitByte_digitBytes n
  cases Nat.eq_zero_or_pos n with
  | inl zero =>
      have stops := not_isDigitByte_head ends
      have digits : digitBytes n = ['0'.toUInt8] := by rw [zero]; decide
      rw [digits]
      cases rest with
      | nil => rfl
      | cons b rest => simp [scanWhole, stops b rfl]
  | inr positive =>
      have scanned := spanDigits_append all ends
      obtain ⟨b, more, digits, notZero⟩ := head_digitBytes positive
      rw [digits] at all scanned ⊢
      rw [List.cons_append] at scanned ⊢
      simp [scanWhole, notZero, all b List.mem_cons_self, scanned]

theorem scanFraction_of_endsNumber (atEnd : Cause) (ends : EndsNumber rest) :
    scanFraction atEnd rest = .ok ([], rest) := by
  cases rest with
  | nil => rfl
  | cons b rest =>
      have stops := ends b rfl
      simp only [continuesNumber, Bool.or_eq_false_iff] at stops
      simp [scanFraction, stops]

theorem scanExponent_of_endsNumber (atEnd : Cause) (ends : EndsNumber rest) :
    scanExponent atEnd rest = .ok (none, rest) := by
  cases rest with
  | nil => rfl
  | cons b rest =>
      have stops := ends b rfl
      simp only [continuesNumber, Bool.or_eq_false_iff] at stops
      simp [scanExponent, stops]

theorem ne_minus_of_isDigitByte {b : UInt8} (h : isDigitByte b = true) : b ≠ '-'.toUInt8 := by
  rintro rfl
  exact absurd h (by decide)

/-- The sign as it is written before the digits. -/
def signBytes (negative : Bool) : List UInt8 :=
  if negative then ['-'.toUInt8] else []

theorem scanNumeral_digitBytes (atEnd : Cause) (negative : Bool) (n : Nat)
    (ends : EndsNumber rest) :
    scanNumeral atEnd (signBytes negative ++ digitBytes n ++ rest) =
      .ok (⟨negative, digitBytes n, [], none⟩, rest) := by
  have scanned := scanWhole_digitBytes atEnd n ends
  have fraction := scanFraction_of_endsNumber atEnd ends
  have exponent := scanExponent_of_endsNumber atEnd ends
  cases negative with
  | true =>
      simp [scanNumeral, signBytes, scanned, fraction, exponent, bind, Except.bind, pure,
        Except.pure]
  | false =>
      have notEmpty : digitBytes n ≠ [] := by simp [digitBytes]
      obtain ⟨b, more, digits⟩ := List.exists_cons_of_ne_nil notEmpty
      have notMinus : b ≠ '-'.toUInt8 :=
        ne_minus_of_isDigitByte (isDigitByte_digitBytes n b (digits ▸ List.mem_cons_self))
      rw [digits] at scanned ⊢
      simp only [List.cons_append] at scanned
      simp [scanNumeral, signBytes, notMinus, scanned, fraction, exponent, bind, Except.bind, pure,
        Except.pure]

/-! ## Counting digits -/

theorem le_foldl_digits (digits : List UInt8) (start : Nat) :
    start ≤ digits.foldl (fun n b => n * 10 + (b.toNat - '0'.toNat)) start := by
  induction digits generalizing start with
  | nil => exact Nat.le_refl start
  | cons b digits ih =>
      have grows : start ≤ start * 10 + (b.toNat - '0'.toNat) := by omega
      exact grows.trans (ih _)

/-- Digits are counted to the end if the number that they spell fits 64 bits. -/
theorem countDigits_of_lt (digits : List UInt8) (start : Nat)
    (small : digits.foldl (fun n b => n * 10 + (b.toNat - '0'.toNat)) start < Decimal.twoTo 64) :
    countDigits start digits =
      (digits.foldl (fun n b => n * 10 + (b.toNat - '0'.toNat)) start, 0) := by
  induction digits generalizing start with
  | nil => rfl
  | cons b digits ih =>
      have fits := (le_foldl_digits digits _).trans_lt small
      rw [countDigits, if_pos fits, ih _ small, List.foldl_cons]

theorem countDigits_lt (digits : List UInt8) {start : Nat} (small : start < Decimal.twoTo 64) :
    (countDigits start digits).1 < Decimal.twoTo 64 := by
  induction digits generalizing start with
  | nil => exact small
  | cons b digits ih =>
      rw [countDigits]
      split
      · next fits => exact ih fits
      · exact small

theorem countDigits_digitBytes (small : n < Decimal.twoTo 64) :
    countDigits 0 (digitBytes n) = (n, 0) := by
  have value : (digitBytes n).foldl (fun n b => n * 10 + (b.toNat - '0'.toNat)) 0 = n :=
    digitsValue_digitBytes n
  have counted := countDigits_of_lt (digitBytes n) 0
  rw [value] at counted
  exact counted small

/-! ## Values -/

theorem value_digitBytes_of_nonneg (small : n < Decimal.twoTo 64) :
    (Numeral.mk false (digitBytes n) [] none).value = some (.integer n) := by
  simp [Numeral.value, countDigits_digitBytes small]

theorem value_digitBytes_of_neg (positive : 0 < n) (small : n ≤ Decimal.twoTo 63) :
    (Numeral.mk true (digitBytes n) [] none).value = some (.integer (-n)) := by
  have fits : n < Decimal.twoTo 64 := small.trans_lt (by decide)
  simp [Numeral.value, countDigits_digitBytes fits, positive, small]

/-- The integers that a number of a JSON text can be. -/
def isWithin64Bits (i : Int) : Bool :=
  decide (-(Decimal.twoTo 63 : Int) ≤ i ∧ i < (Decimal.twoTo 64 : Int))

theorem numberChars_integer (i : Int) :
    bytesOf (numberChars (.integer i)) = signBytes (decide (i < 0)) ++ digitBytes i.natAbs := by
  rw [numberChars, bytesOf_append, bytesOf_toDigits]
  by_cases negative : i < 0
  · rw [if_pos negative, decide_eq_true negative]
    rfl
  · rw [if_neg negative, decide_eq_false negative]
    rfl

theorem value_of_isWithin64Bits {i : Int} (within : isWithin64Bits i = true) :
    (Numeral.mk (decide (i < 0)) (digitBytes i.natAbs) [] none).value = some (.integer i) := by
  have top : Decimal.twoTo 64 = 2 ^ 64 := rfl
  have bottom : Decimal.twoTo 63 = 2 ^ 63 := rfl
  rw [isWithin64Bits, decide_eq_true_eq] at within
  by_cases negative : i < 0
  · rw [decide_eq_true negative, value_digitBytes_of_neg (by omega) (by omega)]
    congr 2
    omega
  · rw [decide_eq_false negative, value_digitBytes_of_nonneg (by omega)]
    congr 2
    omega

/-- An integer of at most 64 bits reads back as it was written, if what comes after it does not
continue it. -/
theorem readNumber_integer {i : Int} (within : isWithin64Bits i = true)
    (ends : EndsNumber rest) :
    readNumber (bytesOf (numberChars (.integer i)) ++ rest) = .ok (.integer i, rest) := by
  rw [numberChars_integer, readNumber, scanNumeral_digitBytes _ _ _ ends]
  simp [bind, Except.bind, value_of_isWithin64Bits within]

/-- An integer begins with a minus or a digit. -/
theorem head_numberChars_integer (i : Int) :
    ∃ b more, bytesOf (numberChars (.integer i)) = b :: more ∧
      (b = '-'.toUInt8 ∨ isDigitByte b = true) := by
  have notEmpty : digitBytes i.natAbs ≠ [] := by simp [digitBytes]
  obtain ⟨b, more, digits⟩ := List.exists_cons_of_ne_nil notEmpty
  rw [numberChars_integer, signBytes]
  split
  · exact ⟨'-'.toUInt8, digitBytes i.natAbs, rfl, Or.inl rfl⟩
  · exact ⟨b, more, digits,
      Or.inr (isDigitByte_digitBytes i.natAbs b (digits ▸ List.mem_cons_self))⟩

end FactoryBundler.Json
