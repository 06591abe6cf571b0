import FactoryBundler.Decimal.Shortest
import FactoryBundler.Proofs.Decimal.Nearest

/-!
# The shortest text is rounded back

Whichever grid the search for the shortest numeral ends at, the numeral that it finds is rounded to
the double that it was made from: on the first grids this is what is looked for, and the last one is
so fine that no numeral next to the double on it could be rounded to another one.
-/

namespace FactoryBundler.Decimal

variable {s : ℕ} {e point place : ℤ} {numeral : Numeral} {r : Double}

/-- The number that a numeral stands for. -/
def Numeral.value (numeral : Numeral) : ℚ :=
  numeral.digits * 10 ^ numeral.exponent

/-! ## Comparisons -/

theorem cast_tenTo_toNat (x : ℤ) : (tenTo x.toNat : ℚ) = 10 ^ x * tenTo (-x).toNat := by
  rw [cast_tenTo, cast_tenTo, ← zpow_natCast, ← zpow_natCast, ← zpow_add₀ (by norm_num)]
  congr 1
  omega

theorem cast_twoTo_toNat (x : ℤ) : (twoTo x.toNat : ℚ) = 2 ^ x * twoTo (-x).toNat := by
  rw [cast_twoTo, cast_twoTo, ← zpow_natCast, ← zpow_natCast, ← zpow_add₀ (by norm_num)]
  congr 1
  omega

/-- What is brought to whole numbers compares as it did before. -/
theorem compareDecimalBinary_iff (a : ℕ) (x : ℤ) (b : ℕ) (y : ℤ) :
    (compareDecimalBinary a x b y = .lt ↔ (a * 10 ^ x : ℚ) < b * 2 ^ y) ∧
      (compareDecimalBinary a x b y = .gt ↔ (b * 2 ^ y : ℚ) < a * 10 ^ x) := by
  have common : (0 : ℚ) < tenTo (-x).toNat * twoTo (-y).toNat := by
    rw [cast_tenTo, cast_twoTo]
    positivity
  have left : ((a * tenTo x.toNat * twoTo (-y).toNat : ℕ) : ℚ) =
      a * 10 ^ x * (tenTo (-x).toNat * twoTo (-y).toNat) := by
    push_cast
    rw [cast_tenTo_toNat]
    ring
  have right : ((b * twoTo y.toNat * tenTo (-x).toNat : ℕ) : ℚ) =
      b * 2 ^ y * (tenTo (-x).toNat * twoTo (-y).toNat) := by
    push_cast
    rw [cast_twoTo_toNat]
    ring
  rw [compareDecimalBinary, Nat.compare_eq_lt, Nat.compare_eq_gt, ← @Nat.cast_lt ℚ,
    ← @Nat.cast_lt ℚ, left, right, mul_lt_mul_iff_left₀ common, mul_lt_mul_iff_left₀ common]
  exact ⟨Iff.rfl, Iff.rfl⟩

theorem cast_readBackBounds (nonzero : 0 < s) (e : ℤ) :
    ((readBackBounds s e).1 : ℚ) =
        4 * s - (if s = 2 ^ 52 ∧ leastExponent < e then 1 else 2) ∧
      ((readBackBounds s e).2 : ℚ) = 4 * s + 2 := by
  rw [readBackBounds, ← twoTo_eq]
  simp only [Bool.and_eq_true, beq_iff_eq, decide_eq_true_eq, gt_iff_lt]
  split <;> refine ⟨?_, by push_cast; rfl⟩
  · rw [Nat.cast_sub (by omega)]
    push_cast
    rfl
  · rw [Nat.cast_sub (by omega)]
    push_cast
    rfl

/-- A numeral reads back if it is within the bounds, which count quarters of the last place. -/
theorem readsBack_iff : readsBack numeral s e = true ↔
    if s % 2 = 0 then
      (readBackBounds s e).1 / 4 ≤ numeral.value / 2 ^ e ∧
        numeral.value / 2 ^ e ≤ (readBackBounds s e).2 / 4
    else
      (readBackBounds s e).1 / 4 < numeral.value / 2 ^ e ∧
        numeral.value / 2 ^ e < (readBackBounds s e).2 / 4 := by
  have scale : (0 : ℚ) < 2 ^ e := by positivity
  have quarters (b : ℕ) : (b * 2 ^ (e - 2) : ℚ) = b / 4 * 2 ^ e := by
    rw [zpow_sub₀ two_ne_zero]
    norm_num
    ring
  have less (b : ℕ) : compareDecimalBinary numeral.digits numeral.exponent b (e - 2) = .lt ↔
      numeral.value / 2 ^ e < b / 4 := by
    rw [(compareDecimalBinary_iff _ _ _ _).1, quarters, ← div_lt_iff₀ scale, Numeral.value]
  have greater (b : ℕ) : compareDecimalBinary numeral.digits numeral.exponent b (e - 2) = .gt ↔
      b / 4 < numeral.value / 2 ^ e := by
    rw [(compareDecimalBinary_iff _ _ _ _).2, quarters, ← lt_div_iff₀ scale, Numeral.value]
  rw [readsBack]
  dsimp only
  split
  · next even =>
    rw [if_pos (beq_iff_eq.mp even), ← not_lt, ← not_lt, ← less, ← greater]
    simp only [Bool.and_eq_true, bne_iff_ne, ne_eq]
  · next odd =>
    rw [if_neg (mt beq_iff_eq.mpr odd), ← less, ← greater]
    simp only [Bool.and_eq_true, beq_iff_eq]

/-- A numeral that reads back is rounded to the double. -/
theorem roundsTo_of_readsBack (nonzero : 0 < r.significand)
    (reads : readsBack numeral r.significand r.exponent = true) : RoundsTo numeral.value r := by
  obtain ⟨low, high⟩ := cast_readBackBounds nonzero r.exponent
  rw [readsBack_iff, low, high] at reads
  generalize isPlace : numeral.value / 2 ^ r.exponent = x at reads
  have weaker : (r.significand - 1 / 2 : ℚ) ≤ (4 * r.significand -
      (if r.significand = 2 ^ 52 ∧ leastExponent < r.exponent then 1 else 2)) / 4 := by
    split <;> linarith
  have same : ((4 * r.significand + 2) / 4 : ℚ) = r.significand + 1 / 2 := by ring
  rw [same] at reads
  constructor
  · rw [isPlace, Near]
    split at reads
    · next even =>
      rw [if_pos even]
      exact ⟨weaker.trans reads.1, reads.2⟩
    · next odd =>
      rw [if_neg odd]
      exact ⟨weaker.trans_lt reads.1, reads.2⟩
  · intro power above
    rw [isPlace]
    rw [if_pos (by omega), if_pos ⟨power, above⟩, power] at reads
    push_cast at reads
    linarith [reads.1]

/-! ## Grids -/

/-- The largest multiple of the unit that is not above the double. -/
theorem floorAt_spec (s : ℕ) (e place : ℤ) :
    (floorAt s e place * 10 ^ place : ℚ) ≤ s * 2 ^ e ∧
      (s * 2 ^ e : ℚ) < (floorAt s e place + 1) * 10 ^ place := by
  have common : (0 : ℚ) < tenTo (-place).toNat * twoTo (-e).toNat := by
    rw [cast_tenTo, cast_twoTo]
    positivity
  have top : ((s * twoTo e.toNat * tenTo (-place).toNat : ℕ) : ℚ) =
      s * 2 ^ e * (tenTo (-place).toNat * twoTo (-e).toNat) := by
    push_cast
    rw [cast_twoTo_toNat]
    ring
  have bottom : ((tenTo place.toNat * twoTo (-e).toNat : ℕ) : ℚ) =
      10 ^ place * (tenTo (-place).toNat * twoTo (-e).toNat) := by
    push_cast
    rw [cast_tenTo_toNat]
    ring
  have positive : 0 < tenTo place.toNat * twoTo (-e).toNat :=
    Nat.mul_pos (tenTo_pos _) (twoTo_pos _)
  rw [← mul_le_mul_iff_left₀ common, ← mul_lt_mul_iff_left₀ common, mul_assoc, mul_assoc (_ + 1),
    ← top, ← bottom]
  constructor
  · exact_mod_cast Nat.div_mul_le_self _ _
  · rw [add_mul, one_mul]
    exact_mod_cast Nat.lt_div_mul_add positive

/-- The power of ten that is guessed from a power of two is at most one too large. -/
theorem ten_zpow_guess_le {k : ℤ} (low : -20000 ≤ k) (high : k ≤ 100000) :
    (10 : ℚ) ^ (k * 30103 / 100000 - 1) ≤ 2 ^ k := by
  generalize isGuess : k * 30103 / 100000 = guess
  rcases le_total k 0 with negative | positive
  · -- Here the logarithm is bounded by 28 / 93 from above.
    obtain ⟨j, rfl⟩ : ∃ j : ℕ, k = -j := ⟨(-k).toNat, by omega⟩
    rw [← pow_le_pow_iff_left₀ (by positivity) (by positivity) (by norm_num : 93 ≠ 0)]
    calc ((10 : ℚ) ^ (guess - 1)) ^ 93 = 10 ^ ((guess - 1) * 93) := (zpow_mul _ _ 93).symm
      _ ≤ 10 ^ (28 * -(j : ℤ)) := zpow_le_zpow_right₀ (by norm_num) (by omega)
      _ = ((10 ^ 28 : ℚ) ^ j)⁻¹ := by rw [zpow_mul, zpow_neg, zpow_natCast]; rfl
      _ ≤ ((2 ^ 93 : ℚ) ^ j)⁻¹ :=
          inv_anti₀ (by positivity) (pow_le_pow_left₀ (by positivity) (by norm_num) j)
      _ = (2 ^ (-(j : ℤ))) ^ 93 := by rw [zpow_neg, inv_pow, zpow_natCast, pow_right_comm]
  · -- And here by 59 / 196 from below.
    obtain ⟨j, rfl⟩ := Int.eq_ofNat_of_zero_le positive
    rw [← pow_le_pow_iff_left₀ (by positivity) (by positivity) (by norm_num : 196 ≠ 0)]
    calc ((10 : ℚ) ^ (guess - 1)) ^ 196 = 10 ^ ((guess - 1) * 196) := (zpow_mul _ _ 196).symm
      _ ≤ 10 ^ (59 * (j : ℤ)) := zpow_le_zpow_right₀ (by norm_num) (by omega)
      _ = (10 ^ 59 : ℚ) ^ j := by rw [zpow_mul, zpow_natCast]; rfl
      _ ≤ (2 ^ 196 : ℚ) ^ j := pow_le_pow_left₀ (by positivity) (by norm_num) j
      _ = (2 ^ (j : ℤ)) ^ 196 := by rw [zpow_natCast, pow_right_comm]

/-- A positive double has at least the digits before the point that are counted. -/
theorem ten_zpow_pointPosition_le (nonzero : 0 < s) (low : -20000 ≤ s.log2 + e)
    (high : s.log2 + e ≤ 100000) : (10 : ℚ) ^ (pointPosition s e - 1) ≤ s * 2 ^ e := by
  have leading : (2 : ℚ) ^ (s.log2 + e) ≤ s * 2 ^ e := by
    rw [zpow_add₀ two_ne_zero]
    gcongr
    exact_mod_cast Nat.log2_self_le nonzero.ne'
  have guessed := (ten_zpow_guess_le low high).trans leading
  have least {point : ℤ} (notGreater : ¬ (compareDecimalBinary 1 point s e == .gt) = true) :
      (10 : ℚ) ^ point ≤ s * 2 ^ e := by
    rw [beq_iff_eq, (compareDecimalBinary_iff _ _ _ _).2, not_lt, Nat.cast_one,
      one_mul] at notGreater
    exact notGreater
  rw [pointPosition]
  split
  · exact guessed
  · next notGreater =>
    split
    · rw [add_sub_cancel_right]
      exact least notGreater
    · next notGreater' =>
      rw [add_sub_assoc]
      exact least notGreater'

theorem readsBack_of_atPlace (found : atPlace s e place = some numeral) :
    readsBack numeral s e = true := by
  rw [atPlace] at found
  split at found
  · cases found
  · next lower _ =>
    cases found
    exact lower
  · next _ upper =>
    cases found
    exact upper
  · next lower upper =>
    split at found
    · cases found
      exact lower
    · cases found
      exact upper
    · cases found
      split
      · exact lower
      · exact upper

/-- A numeral that is much nearer than the neighbours is rounded to the double. -/
theorem roundsTo_of_close {v : ℚ} (low : (r.significand - 1 / 4) * 2 ^ r.exponent < v)
    (high : v < (r.significand + 1 / 4) * 2 ^ r.exponent) : RoundsTo v r := by
  have scale : (0 : ℚ) < 2 ^ r.exponent := by positivity
  rw [← lt_div_iff₀ scale] at low
  rw [← div_lt_iff₀ scale] at high
  constructor
  · exact near_of_lt (by linarith) (by linarith)
  · intro power _
    rw [power] at low
    push_cast at low
    linarith

/-- The last grid is fine enough for what is below the double on it. -/
theorem roundsTo_floorAt (inFormat : r.InFormat)
    (fine : (10 : ℚ) ^ (place + 17) ≤ r.significand * 2 ^ r.exponent) :
    RoundsTo (floorAt r.significand r.exponent place * 10 ^ place) r := by
  obtain ⟨below, above⟩ := floorAt_spec r.significand r.exponent place
  have scale : (0 : ℚ) < 2 ^ r.exponent := by positivity
  have small : (r.significand * 2 ^ r.exponent : ℚ) < 2 ^ 53 * 2 ^ r.exponent := by
    gcongr
    exact_mod_cast inFormat.small
  have unit : (10 : ℚ) ^ place < 1 / 4 * 2 ^ r.exponent := by
    rw [zpow_add₀ (by norm_num)] at fine
    norm_num at fine small
    linarith
  refine roundsTo_of_close ?_ ?_ <;> linarith

/-- Wherever the search ends, what it ends with is rounded to the double. -/
theorem roundsTo_firstGrid (inFormat : r.InFormat) (nonzero : 0 < r.significand)
    (leading : (10 : ℚ) ^ (point - 1) ≤ r.significand * 2 ^ r.exponent) {tries count : ℕ}
    (total : tries + count = 18) :
    RoundsTo (firstGrid r.significand r.exponent point tries count).value r := by
  induction tries generalizing count with
  | zero =>
      obtain rfl : count = 18 := by omega
      rw [firstGrid, Numeral.value]
      refine roundsTo_floorAt inFormat ?_
      rwa [show point - (18 : ℕ) + 17 = point - 1 by push_cast; ring]
  | succ tries ih =>
      rw [firstGrid]
      split
      · next found => exact roundsTo_of_readsBack nonzero (readsBack_of_atPlace found)
      · exact ih (by omega)

/-- The shortest numeral is rounded to the double that it was made from. -/
theorem roundsTo_shortest (inFormat : r.InFormat) (nonzero : 0 < r.significand) :
    RoundsTo (shortest r.significand r.exponent).value r := by
  obtain ⟨small, -, least, greatest⟩ := id inFormat
  have bits : r.significand.log2 < 53 := (Nat.log2_lt nonzero.ne').mpr small
  rw [leastExponent] at least
  rw [greatestExponent] at greatest
  exact roundsTo_firstGrid inFormat nonzero
    (ten_zpow_pointPosition_le nonzero (by omega) (by omega)) rfl

end FactoryBundler.Decimal
