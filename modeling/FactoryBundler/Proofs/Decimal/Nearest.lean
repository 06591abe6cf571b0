import FactoryBundler.Decimal.Double
import Mathlib.Algebra.Order.Field.Power
import Mathlib.Data.Int.Log
import Mathlib.Data.Nat.Digits.Defs
import Mathlib.Data.Rat.Cast.Order
import Mathlib.Data.Rat.Floor
import Mathlib.Tactic.FieldSimp
import Mathlib.Tactic.GCongr
import Mathlib.Tactic.Linarith
import Mathlib.Tactic.NormNum
import Mathlib.Tactic.Positivity
import Mathlib.Tactic.Ring

/-!
# Rounding to the nearest double

What the rounding of fractions does, said in rational numbers. A fraction is brought to the scale at
which its significand has 53 bits, unless that is below the least exponent, and is rounded there
to the nearest whole number, a tie going to the even one. Whatever comes out is a double of the
format. The same goes for products and quotients of doubles, and with them for the numerals that are
read.
-/

namespace FactoryBundler.Decimal

variable {x v : ℚ} {s t n d top bottom : ℕ} {e : ℤ} {negative : Bool}

theorem twoTo_eq (n : ℕ) : twoTo n = 2 ^ n := by
  rw [twoTo, Nat.pow_eq]

theorem tenTo_eq (n : ℕ) : tenTo n = 10 ^ n := by
  rw [tenTo, Nat.pow_eq]

theorem cast_twoTo (n : ℕ) : (twoTo n : ℚ) = 2 ^ n := by
  rw [twoTo_eq, Nat.cast_pow, Nat.cast_ofNat]

theorem cast_tenTo (n : ℕ) : (tenTo n : ℚ) = 10 ^ n := by
  rw [tenTo_eq, Nat.cast_pow, Nat.cast_ofNat]

theorem twoTo_pos (n : ℕ) : 0 < twoTo n := Nat.pow_pos (by decide)

theorem tenTo_pos (n : ℕ) : 0 < tenTo n := Nat.pow_pos (by decide)

/-! ## The nearest whole number -/

/-- A number is at most one half away from a whole number, and one half only if that is even. -/
def Near (x : ℚ) (s : ℕ) : Prop :=
  if s % 2 = 0 then s - 1 / 2 ≤ x ∧ x ≤ s + 1 / 2 else s - 1 / 2 < x ∧ x < s + 1 / 2

theorem Near.bounds (near : Near x s) : s - 1 / 2 ≤ x ∧ x ≤ s + 1 / 2 := by
  rw [Near] at near
  split at near
  · exact near
  · exact ⟨near.1.le, near.2.le⟩

theorem near_of_lt (low : s - 1 / 2 < x) (high : x < s + 1 / 2) : Near x s := by
  rw [Near]
  split
  · exact ⟨low.le, high.le⟩
  · exact ⟨low, high⟩

/-- The quotient is rounded to the nearest whole number. -/
theorem near_roundDiv (positive : 0 < bottom) : Near (top / bottom) (roundDiv top bottom) := by
  have cast : (0 : ℚ) < bottom := by exact_mod_cast positive
  have split : (top / bottom : ℚ) = (top / bottom : ℕ) + (top % bottom : ℕ) / (bottom : ℚ) := by
    have whole : (top : ℚ) = bottom * (top / bottom : ℕ) + (top % bottom : ℕ) := by
      exact_mod_cast (Nat.div_add_mod top bottom).symm
    field_simp
    exact whole
  have low : 0 ≤ (top % bottom : ℕ) / (bottom : ℚ) := by positivity
  have high : (top % bottom : ℕ) / (bottom : ℚ) < 1 := by
    rw [div_lt_one cast]
    exact_mod_cast Nat.mod_lt top positive
  rw [split, roundDiv]
  generalize isWhole : top / bottom = whole
  generalize isRest : top % bottom = rest at low high
  rcases Nat.lt_trichotomy (2 * rest) bottom with less | half | more
  · have below : (rest : ℚ) / bottom < 1 / 2 := by
      rw [div_lt_div_iff₀ cast (by norm_num)]
      exact_mod_cast (by omega : rest * 2 < 1 * bottom)
    rw [if_neg (by simp; omega)]
    exact near_of_lt (by linarith) (by linarith)
  · have tie : (rest : ℚ) / bottom = 1 / 2 := by
      rw [div_eq_div_iff cast.ne' (by norm_num)]
      exact_mod_cast (by omega : rest * 2 = 1 * bottom)
    rw [tie]
    rcases Nat.mod_two_eq_zero_or_one whole with even | odd
    · rw [if_neg (by simp; omega), Near, if_pos even]
      constructor <;> linarith
    · rw [if_pos (by simp; omega), Near, if_pos (by omega)]
      push_cast
      constructor <;> linarith
  · have above : 1 / 2 < (rest : ℚ) / bottom := by
      rw [div_lt_div_iff₀ (by norm_num) cast]
      exact_mod_cast (by omega : 1 * bottom < rest * 2)
    rw [if_pos (by simp; omega)]
    apply near_of_lt <;> push_cast <;> linarith

/-! ## The scale -/

theorem scaled_spec (positive : 0 < d) (n : ℕ) (e : ℤ) :
    0 < (scaled n d e).2 ∧
      ((scaled n d e).1 : ℚ) / (scaled n d e).2 = (n / d : ℚ) / 2 ^ e := by
  have cast : (d : ℚ) ≠ 0 := by exact_mod_cast positive.ne'
  rw [scaled]
  split
  · next nonneg =>
    obtain ⟨k, rfl⟩ := Int.eq_ofNat_of_zero_le nonneg
    refine ⟨Nat.mul_pos positive (twoTo_pos _), ?_⟩
    push_cast
    rw [cast_twoTo, zpow_natCast, div_div]
    rfl
  · next negative =>
    obtain ⟨k, rfl⟩ : ∃ k : ℕ, e = -k := ⟨(-e).toNat, by omega⟩
    refine ⟨positive, ?_⟩
    push_cast
    rw [cast_twoTo, neg_neg, Int.toNat_natCast, zpow_neg, zpow_natCast, div_inv_eq_mul,
      mul_div_right_comm]

theorem two_zpow_le_iff {k : ℤ} (positive : 0 < v) : 2 ^ k ≤ v ↔ k ≤ Int.log 2 v :=
  Int.zpow_le_iff_le_log (by decide) positive

theorem lt_two_zpow_iff {k : ℤ} (positive : 0 < v) : v < 2 ^ k ↔ Int.log 2 v < k :=
  Int.lt_zpow_iff_log_lt (by decide) positive

/-- The leading bit of a quotient is that of the difference, or the one below. -/
theorem log_div_bounds (positive : 0 < n) (positive' : 0 < d) :
    (n.log2 : ℤ) - d.log2 - 1 ≤ Int.log 2 (n / d : ℚ) ∧
      Int.log 2 (n / d : ℚ) < (n.log2 : ℤ) - d.log2 + 1 := by
  have isPositive : (0 : ℚ) < n / d := by positivity
  have cast : (0 : ℚ) < d := by positivity
  have low : (2 : ℚ) ^ (n.log2 : ℤ) ≤ n := by exact_mod_cast Nat.log2_self_le positive.ne'
  have high : (n : ℚ) < 2 ^ (n.log2 + 1 : ℤ) := by exact_mod_cast Nat.lt_log2_self
  have low' : (2 : ℚ) ^ (d.log2 : ℤ) ≤ d := by exact_mod_cast Nat.log2_self_le positive'.ne'
  have high' : (d : ℚ) < 2 ^ (d.log2 + 1 : ℤ) := by exact_mod_cast Nat.lt_log2_self
  constructor
  · rw [← two_zpow_le_iff isPositive, le_div_iff₀ cast]
    calc (2 : ℚ) ^ ((n.log2 : ℤ) - d.log2 - 1) * d
        ≤ 2 ^ ((n.log2 : ℤ) - d.log2 - 1) * 2 ^ (d.log2 + 1 : ℤ) := by gcongr
      _ = 2 ^ (n.log2 : ℤ) := by
        rw [← zpow_add₀ (by norm_num)]
        congr 1
        ring
      _ ≤ n := low
  · rw [← lt_two_zpow_iff isPositive, div_lt_iff₀ cast]
    calc (n : ℚ) < 2 ^ (n.log2 + 1 : ℤ) := high
      _ = 2 ^ ((n.log2 : ℤ) - d.log2 + 1) * 2 ^ (d.log2 : ℤ) := by
        rw [← zpow_add₀ (by norm_num)]
        congr 1
        ring
      _ ≤ 2 ^ ((n.log2 : ℤ) - d.log2 + 1) * d := by gcongr

/-- The scale is that of the leading bit, 52 places up, but no less than the least. -/
theorem exponentOf_eq (positive : 0 < n) (positive' : 0 < d) :
    exponentOf n d = max leastExponent (Int.log 2 (n / d : ℚ) - 52) := by
  have isPositive : (0 : ℚ) < n / d := by positivity
  obtain ⟨low, high⟩ := log_div_bounds positive positive'
  rw [exponentOf]
  generalize isGuess : (n.log2 : ℤ) - d.log2 - 52 = guess
  obtain ⟨scale, quotient⟩ := scaled_spec positive' n guess
  have below : (scaled n d guess).1 < (scaled n d guess).2 * twoTo 52 ↔
      Int.log 2 (n / d : ℚ) < guess + 52 := by
    have cast : (0 : ℚ) < (scaled n d guess).2 := by exact_mod_cast scale
    rw [← lt_two_zpow_iff isPositive, zpow_add₀ (by norm_num), ← div_lt_iff₀' (by positivity),
      ← quotient, div_lt_iff₀' cast, ← @Nat.cast_lt ℚ, Nat.cast_mul, cast_twoTo]
    rfl
  simp only [below]
  congr 1
  split <;> omega

/-! ## The nearest double -/

/-- The doubles of the format: a significand of 53 bits, the first of which is set unless the
exponent is the least. -/
structure Double.InFormat (d : Double) : Prop where
  small : d.significand < 2 ^ 53
  normal : 2 ^ 52 ≤ d.significand ∨ d.exponent = leastExponent
  least : leastExponent ≤ d.exponent
  greatest : d.exponent ≤ greatestExponent

theorem inFormat_zero (negative : Bool) : (Double.zero negative).InFormat where
  small := by norm_num [Double.zero]
  normal := Or.inr rfl
  least := le_refl _
  greatest := show leastExponent ≤ greatestExponent by decide

/-- The numbers that are nearer to a double than to its neighbours, or in the middle to one of them
if the significand is even. Below a power of two the neighbour is only half as far. -/
structure RoundsTo (v : ℚ) (d : Double) : Prop where
  near : Near (v / 2 ^ d.exponent) d.significand
  below : d.significand = 2 ^ 52 → leastExponent < d.exponent →
    2 ^ 52 - 1 / 4 ≤ v / 2 ^ d.exponent

/-- Zero is rounded to itself. -/
theorem roundsTo_zero {d : Double} (zero : d.significand = 0) : RoundsTo 0 d where
  near := by
    rw [zero, zero_div]
    exact near_of_lt (by norm_num) (by norm_num)
  below power := by
    rw [zero] at power
    exact absurd power (by norm_num)

/-- The significand of a fraction at some scale. -/
def significandAt (n d : ℕ) (e : ℤ) : ℕ :=
  roundDiv (scaled n d e).1 (scaled n d e).2

theorem near_significandAt (positive : 0 < d) (n : ℕ) (e : ℤ) :
    Near ((n / d : ℚ) / 2 ^ e) (significandAt n d e) := by
  obtain ⟨isPositive, quotient⟩ := scaled_spec positive n e
  rw [← quotient]
  exact near_roundDiv isPositive

theorem nearest_eq (negative : Bool) (n d : ℕ) :
    nearest negative n d =
      if significandAt n d (exponentOf n d) = twoTo 53 then
        if exponentOf n d + 1 ≤ greatestExponent then
          some ⟨negative, twoTo 52, exponentOf n d + 1⟩
        else none
      else if exponentOf n d ≤ greatestExponent then
        some ⟨negative, significandAt n d (exponentOf n d), exponentOf n d⟩
      else none := by
  -- The scale and the powers stand for themselves here: nothing may try to compute with them.
  obtain ⟨f, isNearest⟩ : ∃ f, f = nearest := ⟨_, rfl⟩
  rewrite [← isNearest]
  delta nearest at isNearest
  rewrite [isNearest, significandAt]
  beta_reduce
  generalize exponentOf n d = e
  extract_lets exponent
  have same : exponent = e := rfl
  clear_value exponent
  subst same
  generalize twoTo 53 = carry
  generalize twoTo 52 = half
  generalize scaled n d exponent = fraction
  obtain ⟨top, bottom⟩ := fraction
  dsimp only
  generalize roundDiv top bottom = significand
  generalize greatestExponent = greatest
  by_cases carries : significand = carry
  · simp only [carries, beq_self_eq_true, if_true, gt_iff_lt, ← Int.not_le, ite_not]
  · simp only [carries, beq_eq_false_iff_ne.mpr carries, if_false, gt_iff_lt, ← Int.not_le, ite_not,
      Bool.false_eq_true]

/-- The scale is the one at which a fraction has 53 bits, or the least one if it has fewer there. -/
theorem exponentOf_eq_iff (positive : 0 < n) (positive' : 0 < d) :
    exponentOf n d = e ↔ leastExponent ≤ e ∧ (n / d : ℚ) / 2 ^ e < 2 ^ 53 ∧
      (e = leastExponent ∨ 2 ^ 52 ≤ (n / d : ℚ) / 2 ^ e) := by
  have isPositive : (0 : ℚ) < n / d := by positivity
  have scale : (0 : ℚ) < 2 ^ e := by positivity
  rw [exponentOf_eq positive positive', div_lt_iff₀' scale, le_div_iff₀' scale, ← zpow_natCast,
    ← zpow_natCast, ← zpow_add₀ (by norm_num), ← zpow_add₀ (by norm_num),
    lt_two_zpow_iff isPositive, two_zpow_le_iff isPositive]
  omega

/-- What comes out is a double of the format. -/
theorem inFormat_of_nearest {r : Double} (positive : 0 < n) (positive' : 0 < d)
    (isNearest : nearest negative n d = some r) : r.InFormat := by
  obtain ⟨least, high, low⟩ := (exponentOf_eq_iff positive positive').mp rfl
  have near := (near_significandAt positive' n (exponentOf n d)).bounds
  rw [nearest_eq, twoTo_eq, twoTo_eq] at isNearest
  generalize exponentOf n d = e at *
  generalize significandAt n d e = s at *
  generalize (n / d : ℚ) / 2 ^ e = x at *
  have atMost : s ≤ 2 ^ 53 := by
    have : (s : ℚ) < 2 ^ 53 + 1 := by linarith
    exact Nat.lt_succ_iff.mp (by exact_mod_cast this)
  have atLeast : e = leastExponent ∨ 2 ^ 52 ≤ s := by
    refine low.imp_right fun low => ?_
    have : (2 : ℚ) ^ 52 < s + 1 := by linarith
    exact Nat.lt_succ_iff.mp (by exact_mod_cast this)
  split at isNearest
  · split at isNearest <;> cases isNearest
    next fits => exact ⟨by norm_num, Or.inl (Nat.le_refl _), by dsimp only; omega, fits⟩
  · next noCarry =>
    split at isNearest <;> cases isNearest
    next fits => exact ⟨lt_of_le_of_ne atMost noCarry, atLeast.symm, least, fits⟩

/-- Numbers that are rounded to a double other than zero are positive. -/
theorem pos_of_roundsTo {r : Double} (nonzero : 0 < r.significand) (rounds : RoundsTo v r) :
    0 < v := by
  have scale : (0 : ℚ) < 2 ^ r.exponent := by positivity
  have nonzero' : (1 : ℚ) ≤ r.significand := by exact_mod_cast nonzero
  have low := rounds.near.bounds.1
  rw [le_div_iff₀ scale] at low
  have positive : 0 < (r.significand - 1 / 2) * (2 : ℚ) ^ r.exponent := by
    apply mul_pos _ scale
    linarith
  exact positive.trans_le low

/-- A fraction that is no less than one is not rounded to zero. -/
theorem significand_pos_of_nearest {r : Double} (positive : 0 < d) (large : d ≤ n)
    (isNearest : nearest negative n d = some r) : 0 < r.significand := by
  obtain ⟨-, -, low⟩ := (exponentOf_eq_iff (positive.trans_le large) positive).mp rfl
  have near := (near_significandAt positive n (exponentOf n d)).bounds
  have cast : (0 : ℚ) < d := by exact_mod_cast positive
  have atLeast : (1 : ℚ) ≤ (n / d : ℚ) := by
    rw [one_le_div cast]
    exact_mod_cast large
  have above : (1 : ℚ) ≤ (n / d : ℚ) / 2 ^ exponentOf n d := by
    rcases low with least | low
    · have tiny : (2 : ℚ) ^ leastExponent ≤ 1 :=
        zpow_le_one_of_nonpos₀ (by norm_num) (by decide)
      rw [least, one_le_div (by positivity)]
      exact tiny.trans atLeast
    · exact le_trans (by norm_num) low
  rw [nearest_eq] at isNearest
  generalize exponentOf n d = e at *
  have counts : 0 < significandAt n d e := by
    have : (0 : ℚ) < significandAt n d e := by linarith
    exact_mod_cast this
  split at isNearest
  · split at isNearest <;> cases isNearest
    exact twoTo_pos 52
  · split at isNearest <;> cases isNearest
    exact counts

/-! ## Arithmetic -/

namespace Double

variable {first second double r : Double} {power : ℕ}

/-- The number that a double is, without its sign. -/
def magnitude (double : Double) : ℚ :=
  double.significand * 2 ^ double.exponent

theorem magnitude_nonneg (double : Double) : 0 ≤ double.magnitude := by
  rw [magnitude]
  positivity

/-- A power of two as a fraction of whole numbers. -/
theorem twoTo_div_twoTo (e : ℤ) : (twoTo e.toNat : ℚ) / twoTo (-e).toNat = 2 ^ e := by
  rw [cast_twoTo, cast_twoTo, ← zpow_natCast, ← zpow_natCast, ← zpow_sub₀ two_ne_zero]
  congr 1
  omega

/-- A product is a fraction that is rounded once. -/
theorem exists_times?_eq (first second : Double) :
    ∃ n d, first.times? second = ofFraction n d ∧ 0 < d ∧
      (n / d : ℚ) = first.magnitude * second.magnitude := by
  refine ⟨_, _, rfl, twoTo_pos _, ?_⟩
  push_cast
  rw [mul_div_assoc, twoTo_div_twoTo, magnitude, magnitude, zpow_add₀ two_ne_zero]
  ring

/-- A quotient is a fraction that is rounded once. -/
theorem exists_over?_eq (nonzero : 0 < second.significand) (first : Double) :
    ∃ n d, first.over? second = ofFraction n d ∧ 0 < d ∧
      (n / d : ℚ) = first.magnitude / second.magnitude := by
  refine ⟨_, _, rfl, Nat.mul_pos nonzero (twoTo_pos _), ?_⟩
  push_cast
  rw [mul_div_mul_comm, twoTo_div_twoTo, magnitude, magnitude, zpow_sub₀ two_ne_zero,
    mul_div_mul_comm]

/-! ## What comes out is of the format -/

theorem inFormat_of_ofFraction (positive : 0 < d) (rounded : ofFraction n d = some r) :
    r.InFormat := by
  rw [ofFraction] at rounded
  split at rounded
  · cases rounded
    exact inFormat_zero false
  · next notZero =>
    exact inFormat_of_nearest (Nat.pos_of_ne_zero (by simpa using notZero)) positive rounded

theorem inFormat_of_times? (product : first.times? second = some r) : r.InFormat :=
  inFormat_of_ofFraction (twoTo_pos _) product

theorem inFormat_of_over? (nonzero : 0 < second.significand)
    (quotient : first.over? second = some r) : r.InFormat :=
  inFormat_of_ofFraction (Nat.mul_pos nonzero (twoTo_pos _)) quotient

theorem significand_pos_of_powerOfTen? (isPower : powerOfTen? power = some r) :
    0 < r.significand := by
  have positive := tenTo_pos power
  rw [powerOfTen?, ofFraction, if_neg (by simpa using positive.ne')] at isPower
  exact significand_pos_of_nearest Nat.one_pos positive isPower

theorem inFormat_of_raise? (inFormat : double.InFormat) (raised : double.raise? power = some r) :
    r.InFormat := by
  rw [raise?] at raised
  split at raised
  · obtain ⟨scale, -, product⟩ := Option.bind_eq_some_iff.mp raised
    exact inFormat_of_times? product
  · split at raised <;> cases raised
    exact inFormat

theorem inFormat_of_lower? (inFormat : double.InFormat) (lowered : double.lower? power = some r) :
    r.InFormat := by
  induction power using Nat.strongRecOn generalizing double with
  | ind power ih =>
      rw [lower?] at lowered
      split at lowered
      · obtain ⟨scale, isPower, quotient⟩ := Option.bind_eq_some_iff.mp lowered
        exact inFormat_of_over? (significand_pos_of_powerOfTen? isPower) quotient
      · next large =>
        split at lowered
        · cases lowered
          exact inFormat
        · obtain ⟨scale, isPower, lowered⟩ := Option.bind_eq_some_iff.mp lowered
          obtain ⟨quotient, isQuotient, lowered⟩ := Option.bind_eq_some_iff.mp lowered
          have inFormat' := inFormat_of_over? (significand_pos_of_powerOfTen? isPower) isQuotient
          have less : power - greatestPower < power := by
            rw [greatestPower] at large ⊢
            omega
          exact ih _ less inFormat' lowered

/-- What a numeral comes to is a double of the format. -/
theorem inFormat_of_ofDecimal (isDouble : ofDecimal negative n e = some r) : r.InFormat := by
  obtain ⟨digits, rounded, isDouble⟩ := Option.bind_eq_some_iff.mp isDouble
  obtain ⟨shifted, isShifted, signed⟩ := Option.bind_eq_some_iff.mp isDouble
  cases signed
  have inFormat := inFormat_of_ofFraction Nat.one_pos rounded
  obtain ⟨small, normal, least, greatest⟩ : shifted.InFormat := by
    rw [shift?] at isShifted
    split at isShifted
    · exact inFormat_of_raise? inFormat isShifted
    · exact inFormat_of_lower? inFormat isShifted
  exact ⟨small, normal, least, greatest⟩

end Double

end FactoryBundler.Decimal
