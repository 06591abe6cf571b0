import FactoryBundler.Proofs.Decimal.Range
import FactoryBundler.Proofs.Json.Doubles

/-!
# Numerals in range

Of the digits of a numeral no more count than fit 64 bits, so what counts is no more than the number
that the numeral stands for. If that is safely below the greatest double, a number is read. The
texts of all doubles are safe but those of the last three, and what is read from these is computed.
-/

namespace FactoryBundler.Json

open Decimal (safe RoundsTo)
open Text.Utf8

variable {b : UInt8} {digits : List UInt8} {start : ℕ} {numeral : Numeral}

/-! ## Digits that are counted -/

/-- One digit more is no more than what all of them come to. -/
theorem step_digits (b : UInt8) (digits : List UInt8) (start : ℕ) :
    (start * 10 + (b.toNat - '0'.toNat)) * 10 ^ digits.length + digitsValue digits =
      start * 10 ^ (b :: digits).length + digitsValue (b :: digits) := by
  have split := digitsValue_append [b] digits
  rw [digitsValue_singleton, List.singleton_append] at split
  rw [split, List.length_cons, pow_succ]
  ring

/-- What is counted, with zeros for the digits that are left, is no more than what all of them come
to. -/
theorem countDigits_mul_le (digits : List UInt8) (start : ℕ) :
    (countDigits start digits).1 * 10 ^ (countDigits start digits).2 ≤
      start * 10 ^ digits.length + digitsValue digits := by
  induction digits generalizing start with
  | nil => simp [countDigits, digitsValue]
  | cons b digits ih =>
      rw [countDigits]
      split
      · rw [← step_digits]
        exact ih _
      · exact Nat.le_add_right _ _

/-- Digits are left only if all of them come to more than 64 bits. -/
theorem le_of_uncounted (left : 0 < (countDigits start digits).2) :
    2 ^ 64 * 10 ^ ((countDigits start digits).2 - 1) ≤
      start * 10 ^ digits.length + digitsValue digits := by
  induction digits generalizing start with
  | nil => exact absurd left (Nat.lt_irrefl 0)
  | cons b digits ih =>
      rw [← step_digits]
      rw [countDigits] at left ⊢
      split
      · next fits =>
        rw [if_pos fits] at left
        exact ih left
      · next large =>
        rw [Nat.add_sub_cancel]
        exact (Nat.mul_le_mul_right _ (Nat.not_lt.mp large)).trans (Nat.le_add_right _ _)

/-- No more digits are left than there are, and if all are left then none was counted. -/
theorem countDigits_left_le (digits : List UInt8) (start : ℕ) :
    (countDigits start digits).2 ≤ digits.length ∧
      ((countDigits start digits).2 = digits.length → (countDigits start digits).1 = start) := by
  induction digits generalizing start with
  | nil => exact ⟨Nat.le_refl 0, fun _ => rfl⟩
  | cons b digits ih =>
      rw [countDigits]
      split
      · have le := (ih (start * 10 + (b.toNat - '0'.toNat))).1
        refine ⟨le.trans (Nat.le_succ _), fun all => ?_⟩
        rw [List.length_cons] at all
        omega
      · exact ⟨Nat.le_refl _, fun _ => rfl⟩

/-- What is counted of whole digits and then of those behind the point is no more than what all of
them come to, with zeros for the digits that are left. -/
theorem counted_le (whole fraction : List UInt8) :
    (countDigits (countDigits 0 whole).1 fraction).1 * 10 ^ ((countDigits 0 whole).2 +
        (countDigits (countDigits 0 whole).1 fraction).2) ≤
      digitsValue (whole ++ fraction) := by
  have small : (countDigits 0 whole).1 < 2 ^ 64 := countDigits_lt whole (by decide)
  have bits : (countDigits (countDigits 0 whole).1 fraction).1 < 2 ^ 64 :=
    countDigits_lt fraction small
  have first := countDigits_mul_le whole 0
  have second := countDigits_mul_le fraction (countDigits 0 whole).1
  have uncounted := @le_of_uncounted whole 0
  obtain ⟨left, none⟩ := countDigits_left_le fraction (countDigits 0 whole).1
  rw [Nat.zero_mul, Nat.zero_add] at first uncounted
  rw [digitsValue_append]
  generalize countDigits 0 whole = counted at *
  obtain ⟨w, u⟩ := counted
  dsimp only at *
  generalize countDigits w fraction = counted' at *
  obtain ⟨n, ignored⟩ := counted'
  dsimp only at *
  rcases u.eq_zero_or_pos with rfl | positive
  · rw [pow_zero, Nat.mul_one] at first
    rw [Nat.zero_add]
    exact second.trans (Nat.add_le_add_right (Nat.mul_le_mul_right _ first) _)
  · refine le_trans ?_ (Nat.le_add_right _ _)
    rcases left.eq_or_lt with all | some
    · rw [none all, pow_add, ← Nat.mul_assoc, all]
      exact Nat.mul_le_mul_right _ first
    · -- Behind whole digits that are left no digit counts for more than the first of those.
      calc n * 10 ^ (u + ignored) ≤ 2 ^ 64 * 10 ^ (u - 1 + fraction.length) :=
          Nat.mul_le_mul bits.le (Nat.pow_le_pow_right (by decide) (by omega))
        _ = 2 ^ 64 * 10 ^ (u - 1) * 10 ^ fraction.length := by rw [pow_add, Nat.mul_assoc]
        _ ≤ digitsValue whole * 10 ^ fraction.length :=
          Nat.mul_le_mul_right _ (uncounted positive)

/-! ## Numerals that are read -/

/-- A numeral that is safe comes to a double. -/
theorem exists_double? (small : numeral.magnitude ≤ safe) : ∃ d, numeral.double? = some d := by
  rw [Numeral.magnitude] at small
  rw [Numeral.double?]
  have whole : (countDigits 0 numeral.whole).1 < 2 ^ 64 := countDigits_lt _ (by decide)
  have bits : (countDigits (countDigits 0 numeral.whole).1 numeral.fraction).1 < 2 ^ 64 :=
    countDigits_lt _ whole
  have counted := counted_le numeral.whole numeral.fraction
  have left := (countDigits_left_le numeral.fraction (countDigits 0 numeral.whole).1).1
  generalize countDigits 0 numeral.whole = first at *
  obtain ⟨w, u⟩ := first
  dsimp only at *
  generalize countDigits w numeral.fraction = second at *
  obtain ⟨n, ignored⟩ := second
  dsimp only at *
  refine Decimal.exists_ofDecimal _ bits (le_trans ?_ small)
  have exponent : numeral.power + u - (numeral.fraction.length - ignored : ℕ) =
      (u + ignored : ℕ) + (numeral.power - numeral.fraction.length) := by
    rw [Nat.cast_sub left]
    push_cast
    ring
  rw [exponent, zpow_add₀ (by norm_num), ← mul_assoc, zpow_natCast]
  gcongr
  exact_mod_cast counted

/-- A numeral whose exponent cannot be counted is not safe. -/
theorem not_safe_of_uncounted (leading : 0 < digitsValue numeral.whole)
    (isExponent : numeral.exponent = some (false, digits))
    (large : greatestCounted < digitsValue digits) : ¬ numeral.magnitude ≤ safe := by
  have isPower : numeral.power = (digitsValue digits : ℤ) := by
    rw [Numeral.power, isExponent]
    rfl
  have counts : 10 ^ numeral.fraction.length ≤ digitsValue (numeral.whole ++ numeral.fraction) := by
    rw [digitsValue_append]
    exact (Nat.le_mul_of_pos_left _ leading).trans (Nat.le_add_right _ _)
  have counts' : (10 ^ numeral.fraction.length : ℚ) ≤
      digitsValue (numeral.whole ++ numeral.fraction) := by
    exact_mod_cast counts
  have least : (10 ^ 309 : ℚ) ≤ numeral.magnitude := by
    rw [Numeral.magnitude, isPower]
    calc (10 ^ 309 : ℚ) ≤ 10 ^ digitsValue digits :=
          pow_le_pow_right₀ (by norm_num) (le_trans (by decide) large.le)
      _ = 10 ^ numeral.fraction.length *
          10 ^ ((digitsValue digits : ℤ) - numeral.fraction.length) := by
        rw [← zpow_natCast, ← zpow_natCast, ← zpow_add₀ (by norm_num)]
        congr 1
        ring
      _ ≤ _ := by gcongr
  exact fun small => absurd (least.trans small)
    (not_le.mpr (Decimal.safe_lt_limit.trans Decimal.Double.limit_bounds.2))

/-- A number is read from a numeral that is safe. -/
theorem exists_number? (isNormalized : numeral.IsNormalized) (small : numeral.magnitude ≤ safe) :
    ∃ n, numeral.number? = some n := by
  obtain ⟨d, isDouble⟩ := exists_double? small
  obtain ⟨n, isValue⟩ : ∃ n, numeral.value = some n := by
    rw [Numeral.value.eq_def, isDouble]
    split
    · split
      · exact ⟨_, rfl⟩
      · split <;> exact ⟨_, rfl⟩
    · exact ⟨_, rfl⟩
  rw [Numeral.number?]
  split
  · exact ⟨n, isValue⟩
  · next minus digits isExponent =>
    split
    · exact ⟨n, isValue⟩
    · next uncounted =>
      split
      · exact ⟨_, rfl⟩
      · next counts =>
        obtain ⟨isPlus, -⟩ := not_or.mp counts
        rw [Bool.not_eq_true] at isPlus
        subst isPlus
        have leading := isNormalized.resolve_left (by simp [isExponent])
        exact absurd small (not_safe_of_uncounted leading isExponent (Nat.not_le.mp uncounted))

/-! ## Doubles -/

/-- What is rounded to a double that is not one of the last three is safe. -/
theorem safe_of_roundsTo {v : ℚ} {d : Decimal.Double} (inFormat : d.InFormat)
    (rounds : RoundsTo v d)
    (notLast : d.exponent = Decimal.greatestExponent → d.significand < 2 ^ 53 - 3) : v ≤ safe := by
  have scale : (0 : ℚ) < 2 ^ d.exponent := by positivity
  have atMost := rounds.near.bounds.2
  rw [div_le_iff₀ scale] at atMost
  refine atMost.trans ?_
  rw [safe]
  rcases inFormat.greatest.eq_or_lt with greatest | less
  · have bound : (d.significand : ℚ) + 1 ≤ 2 ^ 53 - 3 := by
      have bound := notLast greatest
      have cast : (d.significand + 1 + 3 : ℕ) ≤ (2 ^ 53 : ℚ) := by exact_mod_cast (by omega)
      push_cast at cast
      linarith
    rw [greatest]
    gcongr
    linarith
  · have small : (d.significand : ℚ) < 2 ^ 53 := by exact_mod_cast inFormat.small
    have double : (2 : ℚ) * 2 ^ d.exponent ≤ 2 ^ Decimal.greatestExponent := by
      rw [← zpow_one_add₀ two_ne_zero]
      exact zpow_le_zpow_right₀ (by norm_num) (by omega)
    calc (d.significand + 1 / 2) * (2 : ℚ) ^ d.exponent
        ≤ (2 ^ 53 - 3) * 2 * 2 ^ d.exponent := by
          gcongr
          linarith
      _ ≤ (2 ^ 53 - 3) * 2 ^ Decimal.greatestExponent := by
          rw [mul_assoc]
          exact mul_le_mul_of_nonneg_left double (by norm_num)

/-- The texts of the last three doubles are read to their ends. -/
theorem map_readNumber_last (negative : Bool) : ∀ s < 3,
    (readNumber (bytesOf (numberChars (.double
        ⟨negative, 2 ^ 53 - 3 + s, Decimal.greatestExponent⟩)))).map Prod.snd = .ok [] := by
  cases negative <;> decide +kernel

/-- Some number is read from the text of a double. -/
theorem exists_isNumber_double {d : Decimal.Double} (inFormat : d.InFormat) :
    ∃ n, IsNumber n (bytesOf (numberChars (.double d))) := by
  by_cases last : d.exponent = Decimal.greatestExponent ∧ 2 ^ 53 - 3 ≤ d.significand
  · obtain ⟨negative, significand, exponent⟩ := d
    obtain ⟨rfl, large⟩ := last
    obtain ⟨s, rfl⟩ := Nat.exists_eq_add_of_le large
    have small := inFormat.small
    dsimp only at small
    obtain ⟨⟨n, rest⟩, read, none⟩ :=
      Except.map_eq_ok_iff.mp (map_readNumber_last negative s (by omega))
    obtain ⟨token, text, isNumber⟩ := isNumber_of_readNumber read
    cases none
    rw [List.append_nil] at text
    rw [text]
    exact ⟨n, isNumber⟩
  · obtain ⟨spelled, -, isNormalized, rounds⟩ := isDenotation_double inFormat
    have small := safe_of_roundsTo inFormat rounds fun greatest =>
      Nat.not_le.mp fun large => last ⟨greatest, large⟩
    obtain ⟨n, isNumber⟩ := exists_number? isNormalized small
    exact ⟨n, .numeral spelled isNumber⟩

end FactoryBundler.Json
