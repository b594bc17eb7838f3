import Mathlib.Algebra.Order.Field.Power
import Mathlib.Algebra.Order.Field.Rat
import Mathlib.Tactic.Positivity
import Mathlib.Tactic.Ring
import ObjectModel.Number.Rounding

/-!
# How large a rounded number is

A ratio below a power of two is rounded to no more than that power (`Double.nearestMagnitude_le`),
so it is finite unless the power is out of range.  Exponents and ratios are compared as rational
numbers: `Double.floorLog2_spec` says that the exponent of a ratio is the one asked for, and
`Double.descale_div` what scaling by a power of two does.

Natural numbers below `2 ^ 53` are not rounded at all (`Double.parts_nearest`).
-/

namespace ObjectModel.Double

/-! ## Scaling and exponents -/

/-- Scaling down divides by a power of two. -/
theorem descale_div (num den : Nat) (q : Int) :
    ((descale num den q).1 : ℚ) / (descale num den q).2 = num / den / 2 ^ q := by
  unfold descale
  split
  · next nonneg =>
    obtain ⟨k, rfl⟩ := Int.eq_ofNat_of_zero_le nonneg
    rw [Int.toNat_natCast, zpow_natCast, Nat.cast_mul, Nat.cast_pow, Nat.cast_ofNat, div_div]
  · next negative =>
    obtain ⟨k, same⟩ := Int.eq_ofNat_of_zero_le (a := -q) (by omega)
    obtain rfl : q = -(k : Int) := by omega
    rw [Int.neg_neg, Int.toNat_natCast, zpow_neg, zpow_natCast, Nat.cast_mul, Nat.cast_pow,
      Nat.cast_ofNat, div_inv_eq_mul, div_mul_eq_mul_div]

theorem descale_den_pos {num den : Nat} (positive : 0 < den) (q : Int) :
    0 < (descale num den q).2 := by
  unfold descale
  split
  · exact Nat.mul_pos positive (Nat.two_pow_pos _)
  · exact positive

/-- The bits of a number bound it. -/
theorem log2_bounds {n : Nat} (positive : 0 < n) :
    (2 : ℚ) ^ (n.log2 : Int) ≤ n ∧ (n : ℚ) < 2 ^ (n.log2 + 1 : Int) := by
  have low : 2 ^ n.log2 ≤ n := Nat.log2_self_le (Nat.pos_iff_ne_zero.1 positive)
  have high : n < 2 ^ (n.log2 + 1) := Nat.lt_log2_self
  constructor
  · exact_mod_cast low
  · exact_mod_cast high

/-- A ratio that is scaled down by a power of two is at least one iff it is at least that power. -/
theorem descale_le_iff (num : Nat) {den : Nat} (positive : 0 < den) (q : Int) :
    (descale num den q).2 ≤ (descale num den q).1 ↔ (2 : ℚ) ^ q ≤ num / den := by
  have scaledPositive : (0 : ℚ) < (descale num den q).2 := by
    exact_mod_cast descale_den_pos positive q
  have powerPositive : (0 : ℚ) < 2 ^ q := by positivity
  rw [← Nat.cast_le (α := ℚ), ← one_le_div₀ scaledPositive, descale_div,
    one_le_div₀ powerPositive]

/-- The exponent of a ratio is the largest one whose power of two does not exceed it. -/
theorem floorLog2_spec {num den : Nat} (numPositive : 0 < num) (denPositive : 0 < den) :
    (2 : ℚ) ^ floorLog2 num den ≤ num / den ∧ (num / den : ℚ) < 2 ^ (floorLog2 num den + 1) := by
  obtain ⟨numLow, numHigh⟩ := log2_bounds numPositive
  obtain ⟨denLow, denHigh⟩ := log2_bounds denPositive
  have denPos : (0 : ℚ) < den := by exact_mod_cast denPositive
  have test := descale_le_iff num denPositive (num.log2 - den.log2)
  unfold floorLog2
  dsimp only
  generalize (num.log2 : Int) = a at *
  generalize (den.log2 : Int) = b at *
  -- the difference of the two bit counts is the exponent, or one more
  have low : (2 : ℚ) ^ (a - b - 1) ≤ num / den := by
    rw [le_div_iff₀ denPos]
    calc (2 : ℚ) ^ (a - b - 1) * den ≤ 2 ^ (a - b - 1) * 2 ^ (b + 1) := by gcongr
      _ = 2 ^ a := by rw [← zpow_add₀ two_ne_zero]; congr 1; omega
      _ ≤ num := numLow
  have high : (num / den : ℚ) < 2 ^ (a - b + 1) := by
    rw [div_lt_iff₀ denPos]
    calc (num : ℚ) < 2 ^ (a + 1) := numHigh
      _ = 2 ^ (a - b + 1) * 2 ^ b := by rw [← zpow_add₀ two_ne_zero]; congr 1; omega
      _ ≤ 2 ^ (a - b + 1) * den := by gcongr
  split
  · next fits => exact ⟨test.1 fits, high⟩
  · next exceeds =>
    rw [Int.sub_add_cancel]
    exact ⟨low, lt_of_not_ge (exceeds ∘ test.2)⟩

/-! ## Rounding -/

theorem roundHalfEven_le {num den bound : Nat} (below : num < bound * den) :
    roundHalfEven num den ≤ bound := by
  have quotient : num / den < bound := Nat.div_lt_of_lt_mul (by rwa [Nat.mul_comm])
  unfold roundHalfEven
  dsimp only
  split
  · omega
  · split <;> omega

/-- What is below a power of two is rounded to no more than that power. -/
theorem nearestMagnitude_le {num den k : Nat} (below : num < 2 ^ k * den) :
    nearestMagnitude num den ≤ (k + 1023) * 2 ^ 52 := by
  unfold nearestMagnitude
  split
  · exact Nat.zero_le _
  · next nonzero =>
    have numPositive : 0 < num := Nat.pos_of_ne_zero nonzero
    have denPositive : 0 < den := Nat.pos_of_ne_zero (by rintro rfl; simp at below)
    have denPos : (0 : ℚ) < den := by exact_mod_cast denPositive
    obtain ⟨low, high⟩ := floorLog2_spec numPositive denPositive
    dsimp only
    generalize floorLog2 num den = e at *
    have exponent : e < k := by
      have : (2 : ℚ) ^ e < 2 ^ (k : Int) := by
        refine lt_of_le_of_lt low ?_
        rw [div_lt_iff₀ denPos, zpow_natCast]
        exact_mod_cast below
      exact (zpow_lt_zpow_iff_right₀ one_lt_two).1 this
    -- on the grid of its doubles the ratio has 53 bits at most
    generalize grid : max (e - 52) (-1074) = q
    have scaled : (descale num den q).1 < 2 ^ 53 * (descale num den q).2 := by
      have scaledPositive : (0 : ℚ) < (descale num den q).2 := by
        exact_mod_cast descale_den_pos denPositive q
      have ratio : ((descale num den q).1 : ℚ) / (descale num den q).2 < 2 ^ (53 : Int) := by
        rw [descale_div, div_lt_iff₀ (by positivity), ← zpow_add₀ two_ne_zero]
        exact lt_of_lt_of_le high (zpow_le_zpow_right₀ one_le_two (by omega))
      rw [div_lt_iff₀ scaledPositive] at ratio
      exact_mod_cast ratio
    have rounded := roundHalfEven_le scaled
    have places : (q + 1074).toNat ≤ k + 1021 := by omega
    refine Nat.le_trans (Nat.min_le_left ..) ?_
    calc (q + 1074).toNat * 2 ^ 52 + roundHalfEven (descale num den q).1 (descale num den q).2
      _ ≤ (k + 1021) * 2 ^ 52 + 2 ^ 53 := Nat.add_le_add (Nat.mul_le_mul_right _ places) rounded
      _ = (k + 1023) * 2 ^ 52 := by ring

/-! ## Finite results -/

theorem nearestMagnitude_le_infinite (num den : Nat) :
    nearestMagnitude num den ≤ infiniteMagnitude := by
  unfold nearestMagnitude
  split
  · exact Nat.zero_le _
  · exact Nat.min_le_right ..

theorem magnitude_nearest (negative : Bool) (num den : Nat) :
    (nearest negative num den).magnitude = nearestMagnitude num den :=
  magnitude_ofMagnitude _ (Nat.lt_of_le_of_lt (nearestMagnitude_le_infinite num den) (by decide))

theorem isNegative_nearest (negative : Bool) (num den : Nat) :
    (nearest negative num den).isNegative = negative :=
  isNegative_ofMagnitude _ (Nat.lt_of_le_of_lt (nearestMagnitude_le_infinite num den) (by decide))

theorem isNaN_nearest (negative : Bool) (num den : Nat) :
    (nearest negative num den).isNaN = false := by
  rw [isNaN, magnitude_nearest]
  exact decide_eq_false (Nat.not_lt.2 (nearestMagnitude_le_infinite num den))

theorem isFinite_nearest {num den k : Nat} (negative : Bool) (below : num < 2 ^ k * den)
    (inRange : k ≤ 1023) : (nearest negative num den).isFinite = true := by
  have bounded := nearestMagnitude_le below
  rw [isFinite, magnitude_nearest, infiniteMagnitude, decide_eq_true_eq]
  omega

theorem parts_of_finite {x : Double} (finite : x.isFinite = true) :
    x.parts = .finite x.isNegative x.significand x.scale := by
  rw [isFinite, decide_eq_true_eq] at finite
  have number : x.isNaN = false := decide_eq_false (by omega)
  have bounded : x.isInfinite = false := decide_eq_false (by omega)
  rw [parts, number, bounded]
  rfl

theorem finite_of_parts {x : Double} {s : Bool} {m : Nat} {q : Int}
    (parts : x.parts = .finite s m q) : x.isFinite = true := by
  unfold Double.parts isNaN isInfinite at parts
  rw [isFinite, decide_eq_true_eq]
  simp only [decide_eq_true_eq] at parts
  split at parts
  · cases parts
  · split at parts
    · cases parts
    · omega

theorem significand_lt (x : Double) : x.significand < 2 ^ 53 := by
  unfold significand
  split <;> omega

theorem significand_lt_of_parts {x : Double} {s : Bool} {m : Nat} {q : Int}
    (parts : x.parts = .finite s m q) : m < 2 ^ 53 := by
  rw [parts_of_finite (finite_of_parts parts)] at parts
  cases parts
  exact x.significand_lt

/-- A natural number of 64 bits is finite, and its last bit stands for at most `2 ^ 12`. -/
theorem ofNat_small {n : Nat} (small : n < 2 ^ 64) :
    (ofNat n).isFinite = true ∧ (ofNat n).scale ≤ 12 := by
  have below : n < 2 ^ 64 * 1 := by rwa [Nat.mul_one]
  have bounded := nearestMagnitude_le below
  refine ⟨isFinite_nearest false below (by decide), ?_⟩
  unfold scale
  rw [ofNat, magnitude_nearest]
  omega

theorem isFinite_neg (x : Double) : (-x).isFinite = x.isFinite := by
  show decide ((ofMagnitude _ _).magnitude < _) = _
  rw [magnitude_ofMagnitude _ x.magnitude_lt]
  rfl

/-- A double divided by one that is at least one grows by no more than a power of two, which is the
rounding. -/
theorem magnitude_div_le {x y : Double} {k : Nat} (small : x.magnitude ≤ (k + 1023) * 2 ^ 52)
    (inRange : k ≤ 1022) (finite : y.isFinite = true) (large : 1023 * 2 ^ 52 ≤ y.magnitude) :
    (x / y).magnitude ≤ (k + 1024) * 2 ^ 52 := by
  have finite' : x.isFinite = true := by
    rw [isFinite, decide_eq_true_eq, infiniteMagnitude]
    omega
  have lead : 2 ^ 52 ≤ y.significand := by
    unfold significand
    split <;> omega
  have scaleLow : -52 ≤ y.scale := by
    unfold scale
    omega
  have scaleHigh : x.scale ≤ (k : Int) - 52 := by
    unfold scale
    omega
  have below := x.significand_lt
  have nonzero : y.significand ≠ 0 := by omega
  show (div x y).magnitude ≤ _
  rw [div, parts_of_finite finite', parts_of_finite finite]
  dsimp only
  rw [if_neg nonzero]
  rw [magnitude_nearest]
  refine nearestMagnitude_le (k := k + 1) ?_
  unfold descale
  split
  · calc x.significand < 2 ^ 53 := below
      _ ≤ 2 ^ (k + 1) * (2 ^ 52 * 1) := by
        rw [Nat.mul_one, ← Nat.pow_add]
        exact Nat.pow_le_pow_right (by decide) (by omega)
      _ ≤ 2 ^ (k + 1) * (y.significand * 2 ^ (y.scale - x.scale).toNat) := by
        gcongr
        exact Nat.one_le_two_pow
  · calc x.significand * 2 ^ (-(y.scale - x.scale)).toNat
      _ < 2 ^ 53 * 2 ^ k := by
        refine Nat.mul_lt_mul_of_lt_of_le below ?_ (by positivity)
        exact Nat.pow_le_pow_right (by decide) (by omega)
      _ = 2 ^ (k + 1) * 2 ^ 52 := by ring
      _ ≤ 2 ^ (k + 1) * y.significand := Nat.mul_le_mul_left _ lead

/-! ## Whole numbers -/

theorem floorLog2_one {n : Nat} (positive : n ≠ 0) : floorLog2 n 1 = n.log2 := by
  have fits : (descale n 1 n.log2).2 ≤ (descale n 1 n.log2).1 := by
    simpa [descale] using Nat.log2_self_le positive
  have exponent : ((n.log2 : Int) - (1 : Nat).log2) = n.log2 := by
    rw [show (1 : Nat).log2 = 0 from rfl]
    omega
  simp only [floorLog2, exponent, if_pos fits]

/-- A natural number with at most 53 bits, scaled up to 53 bits. -/
theorem scaledUp_bounds {n : Nat} (positive : n ≠ 0) (small : n < 2 ^ 53) :
    n.log2 ≤ 52 ∧ 2 ^ 52 ≤ n * 2 ^ (52 - n.log2) ∧ n * 2 ^ (52 - n.log2) < 2 ^ 53 := by
  have bits : n.log2 ≤ 52 := Nat.lt_succ_iff.1 ((Nat.log2_lt positive).2 small)
  refine ⟨bits, ?_, ?_⟩
  · calc 2 ^ 52 = 2 ^ n.log2 * 2 ^ (52 - n.log2) := by rw [← Nat.pow_add]; congr 1; omega
      _ ≤ n * 2 ^ (52 - n.log2) := Nat.mul_le_mul_right _ (Nat.log2_self_le positive)
  · calc n * 2 ^ (52 - n.log2) < 2 ^ (n.log2 + 1) * 2 ^ (52 - n.log2) :=
          Nat.mul_lt_mul_of_pos_right Nat.lt_log2_self (Nat.two_pow_pos _)
      _ = 2 ^ 53 := by rw [← Nat.pow_add]; congr 1; omega

/-- It is rounded to itself. -/
theorem nearestMagnitude_one {n : Nat} (positive : n ≠ 0) (small : n < 2 ^ 53) :
    nearestMagnitude n 1 = (n.log2 + 1022) * 2 ^ 52 + n * 2 ^ (52 - n.log2) := by
  obtain ⟨bits, low, high⟩ := scaledUp_bounds positive small
  have grid : max ((n.log2 : Int) - 52) (-1074) = n.log2 - 52 := by omega
  have scaled : descale n 1 ((n.log2 : Int) - 52) = (n * 2 ^ (52 - n.log2), 1) := by
    by_cases full : n.log2 = 52
    · simp [descale, full]
    · have negative : ¬(0 : Int) ≤ (n.log2 : Int) - 52 := by omega
      have places : (-((n.log2 : Int) - 52)).toNat = 52 - n.log2 := by omega
      simp only [descale, if_neg negative, places]
  have exact_ : roundHalfEven (n * 2 ^ (52 - n.log2)) 1 = n * 2 ^ (52 - n.log2) := by
    simp [roundHalfEven, Nat.mod_one]
  have places : ((n.log2 : Int) - 52 + 1074).toNat = n.log2 + 1022 := by omega
  -- the grid is that of the integers or a finer one, so nothing is lost on it
  rw [nearestMagnitude, if_neg positive]
  simp only [floorLog2_one positive, grid, scaled, exact_, places]
  refine Nat.min_eq_left ?_
  unfold infiniteMagnitude
  omega

theorem parts_nearest (negative : Bool) {n : Nat} (positive : n ≠ 0) (small : n < 2 ^ 53) :
    (nearest negative n 1).parts = .finite negative (n * 2 ^ (52 - n.log2)) (n.log2 - 52) := by
  obtain ⟨bits, low, high⟩ := scaledUp_bounds positive small
  have magnitude : (nearest negative n 1).magnitude =
      (n.log2 + 1022) * 2 ^ 52 + n * 2 ^ (52 - n.log2) := by
    rw [magnitude_nearest, nearestMagnitude_one positive small]
  have finite : (nearest negative n 1).isFinite = true := by
    rw [isFinite, magnitude, infiniteMagnitude, decide_eq_true_eq]
    omega
  have significand : (nearest negative n 1).significand = n * 2 ^ (52 - n.log2) := by
    unfold significand
    rw [magnitude]
    split <;> omega
  have scale : (nearest negative n 1).scale = (n.log2 : Int) - 52 := by
    unfold scale
    rw [magnitude]
    omega
  rw [parts_of_finite finite, isNegative_nearest, significand, scale]

end ObjectModel.Double
