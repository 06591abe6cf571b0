import FactoryBundler.Proofs.Decimal.Nearest

/-!
# Numbers in range

Below half a place above the greatest double every fraction is rounded to a double, and no more than
half a place is gained by that. A numeral is rounded twice if it is multiplied by a power of ten, so
it gains at most twice as much: whatever is three places below that bound is in range. What is
divided by powers of ten only becomes less, and is in range wherever it starts.
-/

namespace FactoryBundler.Decimal

variable {n d : ℕ} {e : ℤ} {r first second double : Double} {power : ℕ}

namespace Double

/-- Half a place above the greatest double. -/
def limit : ℚ := (2 ^ 53 - 1 / 2) * 2 ^ greatestExponent

/-- The greatest power of ten is below the limit, and the next one above. -/
theorem limit_bounds : (10 ^ 308 : ℚ) < limit ∧ limit < 10 ^ 309 := by
  have low : tenTo 308 * 2 + twoTo 971 < twoTo 54 * twoTo 971 := by decide +kernel
  have high : twoTo 54 * twoTo 971 < tenTo 309 * 2 + twoTo 971 := by decide +kernel
  have low' : (tenTo 308 * 2 + twoTo 971 : ℚ) < twoTo 54 * twoTo 971 := by exact_mod_cast low
  have high' : (twoTo 54 * twoTo 971 : ℚ) < tenTo 309 * 2 + twoTo 971 := by exact_mod_cast high
  have place : (twoTo 971 : ℚ) = 2 ^ greatestExponent := by
    rw [cast_twoTo, ← zpow_natCast]
    rfl
  rw [place, cast_tenTo, cast_twoTo] at low' high'
  rw [limit]
  generalize (10 ^ 308 : ℚ) = ten at *
  generalize (10 ^ 309 : ℚ) = ten' at *
  constructor <;> linarith

theorem lt_limit {x : ℚ} (small : x ≤ 10 ^ 30) : x < limit :=
  small.trans_lt
    ((pow_le_pow_right₀ (by norm_num) (by decide)).trans_lt limit_bounds.1)

/-- A fraction below the limit is rounded to a double. -/
theorem exists_ofFraction (positive : 0 < d) (small : (n / d : ℚ) < limit) :
    ∃ r, ofFraction n d = some r := by
  rw [ofFraction]
  split
  · exact ⟨_, rfl⟩
  · next notZero =>
    have positive' : 0 < n := Nat.pos_of_ne_zero (by simpa using notZero)
    obtain ⟨-, -, low⟩ := (exponentOf_eq_iff positive' positive).mp rfl
    have near := (near_significandAt positive n (exponentOf n d)).bounds
    rw [nearest_eq, twoTo_eq, twoTo_eq]
    generalize exponentOf n d = e at *
    have scale : (0 : ℚ) < 2 ^ e := by positivity
    have fits : e ≤ greatestExponent := by
      rcases low with rfl | low
      · decide
      · by_contra large
        have double : (2 : ℚ) * 2 ^ greatestExponent ≤ 2 ^ e := by
          rw [← zpow_one_add₀ two_ne_zero]
          exact zpow_le_zpow_right₀ (by norm_num) (by omega)
        rw [le_div_iff₀ scale] at low
        rw [limit] at small
        have positive : (0 : ℚ) < 2 ^ greatestExponent := by positivity
        linarith
    rw [if_pos fits]
    split
    · next carry =>
      rw [if_pos]
      · exact ⟨_, rfl⟩
      · refine Int.add_one_le_of_lt (lt_of_le_of_ne fits ?_)
        rintro rfl
        have low := near.1
        rw [carry, le_div_iff₀ scale] at low
        push_cast at low
        exact absurd small (not_lt.mpr low)
    · exact ⟨_, rfl⟩

/-- What a fraction is rounded to, in whole places. -/
theorem magnitude_of_ofFraction (positive : 0 < n) (rounded : ofFraction n d = some r) :
    r.magnitude = significandAt n d (exponentOf n d) * 2 ^ exponentOf n d := by
  rw [ofFraction, if_neg (by simpa using positive.ne'), nearest_eq, twoTo_eq, twoTo_eq] at rounded
  generalize exponentOf n d = e at *
  generalize significandAt n d e = s at *
  split at rounded
  · next carry =>
    split at rounded <;> cases rounded
    rw [magnitude, carry, zpow_add_one₀ two_ne_zero]
    push_cast
    ring
  · split at rounded <;> cases rounded
    rfl

/-- What is rounded is at most doubled. -/
theorem magnitude_le_of_ofFraction (positive : 0 < d) (rounded : ofFraction n d = some r) :
    r.magnitude ≤ 2 * (n / d) := by
  rcases n.eq_zero_or_pos with rfl | positive'
  · cases rounded
    simp [magnitude, zero]
  · rw [magnitude_of_ofFraction positive' rounded]
    have near := (near_significandAt positive n (exponentOf n d)).bounds
    generalize exponentOf n d = e at *
    generalize significandAt n d e = s at *
    have scale : (0 : ℚ) < 2 ^ e := by positivity
    rw [← le_div_iff₀ scale, mul_div_assoc]
    rcases s.eq_zero_or_pos with rfl | counts
    · rw [Nat.cast_zero]
      positivity
    · have : (1 : ℚ) ≤ s := by exact_mod_cast counts
      linarith

/-- What is rounded from one on changes by half a place at most, and a place is small. -/
theorem magnitude_bounds_of_le (positive : 0 < d) (large : d ≤ n)
    (rounded : ofFraction n d = some r) :
    (n / d : ℚ) * (1 - 1 / 2 ^ 53) ≤ r.magnitude ∧
      r.magnitude ≤ (n / d : ℚ) * (1 + 1 / 2 ^ 53) := by
  have positive' := positive.trans_le large
  rw [magnitude_of_ofFraction positive' rounded]
  have near := (near_significandAt positive n (exponentOf n d)).bounds
  obtain ⟨-, -, low⟩ := (exponentOf_eq_iff positive' positive).mp rfl
  have atLeast : (1 : ℚ) ≤ (n / d : ℚ) := by
    rw [one_le_div (by exact_mod_cast positive)]
    exact_mod_cast large
  have bits : (2 : ℚ) ^ 52 ≤ (n / d : ℚ) / 2 ^ exponentOf n d := by
    rcases low with least | low
    · have tiny : (2 : ℚ) ^ leastExponent ≤ 1 / 2 ^ 52 := by
        rw [one_div, ← zpow_natCast, ← zpow_neg]
        exact zpow_le_zpow_right₀ (by norm_num) (by decide)
      rw [least, le_div_iff₀ (by positivity)]
      linarith
    · exact low
  generalize exponentOf n d = e at *
  generalize significandAt n d e = s at *
  have scale : (0 : ℚ) < 2 ^ e := by positivity
  generalize isPlaces : (n / d : ℚ) / 2 ^ e = x at *
  rw [(div_eq_iff scale.ne').mp isPlaces]
  constructor
  · rw [mul_right_comm]
    gcongr
    linarith
  · rw [mul_right_comm]
    gcongr
    linarith

/-! ## Powers of ten -/

theorem tenTo_le_tenTo {k l : ℕ} (le : k ≤ l) : tenTo k ≤ tenTo l :=
  Nat.pow_le_pow_right (by decide) le

/-- Up to the greatest there are powers of ten. -/
theorem exists_powerOfTen? (fits : power ≤ greatestPower) : ∃ r, powerOfTen? power = some r := by
  refine exists_ofFraction Nat.one_pos ?_
  have atMost : (tenTo power : ℚ) ≤ 10 ^ 308 := by
    rw [← cast_tenTo]
    exact_mod_cast tenTo_le_tenTo fits
  rw [Nat.cast_one, div_one]
  exact atMost.trans_lt limit_bounds.1

theorem powerOfTen?_bounds (isPower : powerOfTen? power = some r) :
    (10 ^ power : ℚ) * (1 - 1 / 2 ^ 53) ≤ r.magnitude ∧
      r.magnitude ≤ (10 ^ power : ℚ) * (1 + 1 / 2 ^ 53) := by
  have bounds := magnitude_bounds_of_le Nat.one_pos (tenTo_pos power) isPower
  rwa [Nat.cast_one, div_one, cast_tenTo] at bounds

/-- A product in range is rounded to a double. -/
theorem exists_times? (small : first.magnitude * second.magnitude < limit) :
    ∃ r, first.times? second = some r := by
  obtain ⟨n, d, rounded, positive, product⟩ := exists_times?_eq first second
  rw [rounded]
  rw [← product] at small
  exact exists_ofFraction positive small

/-- A quotient in range is rounded to a double, and at most doubled by that. -/
theorem exists_over? (nonzero : 0 < second.significand)
    (small : first.magnitude / second.magnitude < limit) :
    ∃ r, first.over? second = some r ∧ r.magnitude ≤ 2 * (first.magnitude / second.magnitude) := by
  obtain ⟨n, d, isFraction, positive, quotient⟩ := exists_over?_eq nonzero first
  rw [isFraction]
  rw [← quotient] at small ⊢
  obtain ⟨r, rounded⟩ := exists_ofFraction positive small
  exact ⟨r, rounded, magnitude_le_of_ofFraction positive rounded⟩

/-- A step of division by a power of ten, and what is left after it. -/
theorem exists_over?_powerOfTen? (small : double.magnitude ≤ 2 ^ 65)
    (fits : power ≤ greatestPower) : ∃ scale r, powerOfTen? power = some scale ∧
      double.over? scale = some r ∧ r.magnitude ≤ 2 ^ 67 / 10 ^ power := by
  obtain ⟨scale, isPower⟩ := exists_powerOfTen? fits
  have half : (10 ^ power : ℚ) / 2 ≤ scale.magnitude := by
    refine le_trans ?_ (powerOfTen?_bounds isPower).1
    rw [div_eq_mul_inv]
    gcongr
    norm_num
  have positive : (0 : ℚ) < 10 ^ power / 2 := by positivity
  have atMost : double.magnitude / scale.magnitude ≤ 2 ^ 66 / 10 ^ power := by
    calc double.magnitude / scale.magnitude ≤ 2 ^ 65 / (10 ^ power / 2) := by gcongr
      _ = 2 ^ 66 / 10 ^ power := by field_simp
  have inRange : (2 ^ 66 / 10 ^ power : ℚ) < limit := by
    calc (2 ^ 66 / 10 ^ power : ℚ) ≤ 2 ^ 66 :=
        div_le_self (by positivity) (one_le_pow₀ (by norm_num))
      _ < limit := lt_limit (by norm_num)
  obtain ⟨r, isQuotient, le⟩ :=
    exists_over? (significand_pos_of_powerOfTen? isPower) (atMost.trans_lt inRange)
  refine ⟨scale, r, isPower, isQuotient, le.trans ?_⟩
  calc 2 * (double.magnitude / scale.magnitude) ≤ 2 * (2 ^ 66 / 10 ^ power) := by gcongr
    _ = 2 ^ 67 / 10 ^ power := by ring

/-- What is not much greater than 64 bits can be divided by any power of ten. -/
theorem exists_lower? (small : double.magnitude ≤ 2 ^ 65) :
    ∃ r, double.lower? power = some r := by
  -- The power is used up in steps, and after each of them less is left than before.
  induction power using Nat.strongRecOn generalizing double with
  | ind power ih =>
      rw [lower?]
      split
      · next fits =>
        obtain ⟨scale, r, isPower, isQuotient, -⟩ := exists_over?_powerOfTen? small fits
        rw [isPower]
        exact ⟨r, isQuotient⟩
      · next large =>
        split
        · exact ⟨_, rfl⟩
        · obtain ⟨scale, r, isPower, isQuotient, le⟩ :=
            exists_over?_powerOfTen? small (Nat.le_refl greatestPower)
          simp only [isPower, isQuotient, Option.bind_eq_bind, Option.bind_some]
          have less : power - greatestPower < power := by
            rw [greatestPower] at large ⊢
            omega
          have four : (4 : ℚ) ≤ 10 ^ greatestPower :=
            le_trans (by norm_num) (le_self_pow₀ (by norm_num : 1 ≤ (10 : ℚ)) (by decide))
          refine ih _ less (le.trans ?_)
          rw [div_le_iff₀ (by positivity)]
          linarith

end Double

open Double

/-- The greatest number that is known to be in range whatever numeral spells it: three places below
the limit there is room for both roundings. -/
def safe : ℚ := (2 ^ 53 - 3) * 2 ^ greatestExponent

theorem safe_lt_limit : safe < limit := by
  rw [safe, limit]
  gcongr
  norm_num

/-- Digits can be multiplied by a power of ten if what they come to is safe. -/
theorem exists_raise? (rounded : ofFraction n 1 = some double)
    (small : (n * 10 ^ power : ℚ) ≤ safe) : ∃ r, double.raise? power = some r := by
  rcases n.eq_zero_or_pos with rfl | positive
  · cases rounded
    rw [raise?]
    split
    · next fits =>
      obtain ⟨scale, isPower⟩ := exists_powerOfTen? fits
      rw [isPower]
      refine exists_times? (lt_limit ?_)
      rw [magnitude, zero, Nat.cast_zero, zero_mul, zero_mul]
      positivity
    · exact ⟨_, rfl⟩
  · have counts : (1 : ℚ) ≤ n := by exact_mod_cast positive
    rw [raise?]
    split
    · next fits =>
      obtain ⟨scale, isPower⟩ := exists_powerOfTen? fits
      rw [isPower]
      refine exists_times? ?_
      have digits := (magnitude_bounds_of_le Nat.one_pos positive rounded).2
      rw [Nat.cast_one, div_one] at digits
      calc double.magnitude * scale.magnitude
          ≤ (n * (1 + 1 / 2 ^ 53)) * (10 ^ power * (1 + 1 / 2 ^ 53)) :=
            mul_le_mul digits (powerOfTen?_bounds isPower).2 scale.magnitude_nonneg (by positivity)
        _ = n * 10 ^ power * (1 + 1 / 2 ^ 53) ^ 2 := by ring
        _ ≤ safe * (1 + 1 / 2 ^ 53) ^ 2 := by gcongr
        _ < limit := by
          rw [safe, limit, mul_right_comm]
          gcongr
          norm_num
    · next large =>
      have least : (10 ^ 309 : ℚ) ≤ n * 10 ^ power := by
        rw [greatestPower] at large
        calc (10 ^ 309 : ℚ) ≤ 10 ^ power := pow_le_pow_right₀ (by norm_num) (by omega)
          _ ≤ n * 10 ^ power := le_mul_of_one_le_left (by positivity) counts
      exact absurd (least.trans small) (not_le.mpr (safe_lt_limit.trans limit_bounds.2))

/-- A numeral of at most 64 bits is in range if what it stands for is safe. -/
theorem exists_ofDecimal (negative : Bool) (bits : n < 2 ^ 64) (small : (n * 10 ^ e : ℚ) ≤ safe) :
    ∃ r, ofDecimal negative n e = some r := by
  have bits' : (n : ℚ) ≤ 2 ^ 64 := by exact_mod_cast bits.le
  have inRange : ((n : ℕ) / (1 : ℕ) : ℚ) < limit := by
    rw [Nat.cast_one, div_one]
    exact lt_limit (bits'.trans (by norm_num))
  obtain ⟨double, rounded⟩ := exists_ofFraction Nat.one_pos inRange
  obtain ⟨r, shifted⟩ : ∃ r, double.shift? e = some r := by
    have doubled := magnitude_le_of_ofFraction Nat.one_pos rounded
    rw [Nat.cast_one, div_one] at doubled
    have few : double.magnitude ≤ 2 ^ 65 := by linarith
    rw [shift?]
    split
    · next nonneg =>
      obtain ⟨power, rfl⟩ := Int.eq_ofNat_of_zero_le nonneg
      rw [Int.toNat_natCast]
      rw [zpow_natCast] at small
      exact exists_raise? rounded small
    · exact exists_lower? few
  simp only [ofDecimal, rounded, shifted, Option.bind_eq_bind, Option.bind_some]
  exact ⟨_, rfl⟩

end FactoryBundler.Decimal
