import Mathlib.Algebra.Order.Floor.Semifield
import Mathlib.Data.Rat.Floor
import ObjectModel.Number.Comparison
import ObjectModel.Proofs.Rounding

/-!
# The number that a double stands for

A finite double stands for a rational number (`Double.rational?`).  Comparing doubles is comparing
these numbers (`atMost_iff`), and a sum or an integer part that is a whole number of at most 53 bits
is not rounded (`add_whole`, `integerPart_whole`): rounding depends on the ratio alone
(`nearestMagnitude_mul`), and such a number is its own rounding (`nearest_whole`).
-/

namespace ObjectModel.Double

/-- The rational number `± m · 2 ^ q`. -/
def scaled (negative : Bool) (m : Nat) (q : Int) : ℚ := (if negative then -(m : ℚ) else m) * 2 ^ q

/-- The number that a finite double stands for. -/
def rational? (x : Double) : Option ℚ :=
  match x.parts with
  | .finite negative m q => some (scaled negative m q)
  | _ => none

variable {x y : Double} {a b : ℚ}

theorem rational?_eq_some_iff : x.rational? = some a ↔
    ∃ s m q, x.parts = .finite s m q ∧ scaled s m q = a := by
  unfold rational?
  cases x.parts <;> simp

theorem rational?_of_parts {s : Bool} {m : Nat} {q : Int} (parts : x.parts = .finite s m q) :
    x.rational? = some (scaled s m q) :=
  rational?_eq_some_iff.2 ⟨s, m, q, parts, rfl⟩

/-- The whole part is the floor of the absolute value. -/
theorem wholePart_eq_floor (m : Nat) (q : Int) : wholePart m q = ⌊(m : ℚ) * 2 ^ q⌋₊ := by
  unfold wholePart
  split
  · next nonneg =>
    obtain ⟨k, rfl⟩ := Int.eq_ofNat_of_zero_le nonneg
    rw [Int.toNat_natCast, zpow_natCast]
    exact_mod_cast (Nat.floor_natCast (R := ℚ) (m * 2 ^ k)).symm
  · next negative =>
    obtain ⟨k, same⟩ := Int.eq_ofNat_of_zero_le (a := -q) (by omega)
    obtain rfl : q = -(k : Int) := by omega
    rw [same, Int.toNat_natCast, zpow_neg, zpow_natCast, ← div_eq_mul_inv]
    exact_mod_cast (Nat.floor_div_eq_div (K := ℚ) m (2 ^ k)).symm

/-! ## Comparison -/

theorem alignTo_cast {base q : Int} (aligned : base ≤ q) (s : Bool) (m : Nat) :
    (alignTo base s m q : ℚ) = scaled s m q / 2 ^ base := by
  obtain ⟨k, same⟩ := Int.eq_ofNat_of_zero_le (a := q - base) (by omega)
  obtain rfl : q = k + base := by omega
  have places : (k + base - base : Int).toNat = k := by omega
  have nonzero : (2 : ℚ) ^ base ≠ 0 := by positivity
  unfold alignTo scaled
  dsimp only
  rw [places, zpow_add₀ two_ne_zero, zpow_natCast, ← mul_assoc, mul_div_cancel_right₀ _ nonzero]
  cases s <;> simp

theorem atMost_iff (hx : x.rational? = some a) (hy : y.rational? = some b) :
    x.atMost y = true ↔ a ≤ b := by
  obtain ⟨s, m, p, xParts, rfl⟩ := rational?_eq_some_iff.1 hx
  obtain ⟨t, n, q, yParts, rfl⟩ := rational?_eq_some_iff.1 hy
  have positive : (0 : ℚ) < 2 ^ min p q := by positivity
  unfold atMost
  rw [xParts, yParts]
  dsimp only
  rw [decide_eq_true_iff, ← Int.cast_le (R := ℚ), alignTo_cast (min_le_left p q),
    alignTo_cast (min_le_right p q), div_le_div_iff_of_pos_right positive]

theorem parts_eq_nan_iff : x.parts = .nan ↔ x.isNaN = true := by
  unfold parts
  cases x.isNaN <;> cases x.isInfinite <;> simp

theorem isNaN_of_parts {p : Parts} (parts : x.parts = p) (number : p ≠ .nan) : x.isNaN = false :=
  eq_false_of_ne_true fun isNaN => number (parts.symm.trans (parts_eq_nan_iff.2 isNaN))

theorem isNaN_of_rational? (hx : x.rational? = some a) : x.isNaN = false := by
  obtain ⟨s, m, q, parts, -⟩ := rational?_eq_some_iff.1 hx
  exact isNaN_of_parts parts nofun

/-! ## Rounding a ratio -/

section Ratio

variable (num : Nat) {den c : Nat}

theorem floorLog2_mul {num : Nat} (numPositive : 0 < num) (denPositive : 0 < den)
    (positive : 0 < c) : floorLog2 (num * c) (den * c) = floorLog2 num den := by
  obtain ⟨low, high⟩ := floorLog2_spec numPositive denPositive
  obtain ⟨low', high'⟩ :=
    floorLog2_spec (Nat.mul_pos numPositive positive) (Nat.mul_pos denPositive positive)
  have nonzero : (c : ℚ) ≠ 0 := by exact_mod_cast positive.ne'
  rw [Nat.cast_mul, Nat.cast_mul, mul_div_mul_right _ _ nonzero] at low' high'
  -- both exponents lead the same ratio
  have below := (zpow_lt_zpow_iff_right₀ (one_lt_two (α := ℚ))).1 (lt_of_le_of_lt low' high)
  have above := (zpow_lt_zpow_iff_right₀ (one_lt_two (α := ℚ))).1 (lt_of_le_of_lt low high')
  omega

theorem descale_mul (q : Int) :
    descale (num * c) (den * c) q = ((descale num den q).1 * c, (descale num den q).2 * c) := by
  unfold descale
  split <;> simp only [Nat.mul_right_comm]

theorem roundHalfEven_mul (positive : 0 < c) :
    roundHalfEven (num * c) (den * c) = roundHalfEven num den := by
  unfold roundHalfEven
  rw [Nat.mul_div_mul_right _ _ positive, Nat.mul_mod_mul_right]
  simp only [← Nat.mul_assoc, Nat.mul_lt_mul_right positive]

/-- Rounding depends on the ratio alone. -/
theorem nearestMagnitude_mul (denPositive : 0 < den) (positive : 0 < c) :
    nearestMagnitude (num * c) (den * c) = nearestMagnitude num den := by
  by_cases zero : num = 0
  · rw [zero, Nat.zero_mul, nearestMagnitude, nearestMagnitude, if_pos rfl, if_pos rfl]
  · have numPositive : 0 < num := Nat.pos_of_ne_zero zero
    have product : num * c ≠ 0 := (Nat.mul_pos numPositive positive).ne'
    rw [nearestMagnitude, nearestMagnitude, if_neg zero, if_neg product]
    simp only [floorLog2_mul numPositive denPositive positive, descale_mul,
      roundHalfEven_mul _ positive]

end Ratio

/-! ## Whole numbers -/

theorem rational?_zero (s : Bool) : (zero s).rational? = some 0 := by
  have parts : (zero s).parts = .finite s 0 (-1074) := by cases s <;> decide
  rw [rational?_of_parts parts, scaled, Nat.cast_zero, neg_zero, ite_self, zero_mul]

/-- A natural number of at most 53 bits is its own rounding. -/
theorem nearest_whole (s : Bool) {n : Nat} (small : n < 2 ^ 53) :
    (nearest s n 1).rational? = some (if s then -(n : ℚ) else n) := by
  by_cases zero : n = 0
  · subst zero
    show (Double.zero s).rational? = _
    rw [rational?_zero, Nat.cast_zero, neg_zero, ite_self]
  · obtain ⟨bits, -, -⟩ := scaledUp_bounds zero small
    have grid : ((n * 2 ^ (52 - n.log2) : Nat) : ℚ) * 2 ^ ((n.log2 : Int) - 52) = n := by
      rw [Nat.cast_mul, Nat.cast_pow, Nat.cast_ofNat, mul_assoc, ← zpow_natCast,
        ← zpow_add₀ two_ne_zero]
      have cancel : ((52 - n.log2 : Nat) : Int) + (n.log2 - 52) = 0 := by omega
      rw [cancel, zpow_zero, mul_one]
    rw [rational?_of_parts (parts_nearest s zero small), scaled]
    cases s <;> simp only [Bool.false_eq_true, if_true, if_false, neg_mul, grid]

theorem ofNat_whole {n : Nat} (small : n < 2 ^ 53) : (ofNat n).rational? = some (n : ℚ) :=
  nearest_whole false small

theorem ofScaled_whole (s : Bool) {m n : Nat} {q : Int} (whole : (m : ℚ) * 2 ^ q = n)
    (small : n < 2 ^ 53) : (ofScaled s m q).rational? = some (if s then -(n : ℚ) else n) := by
  rw [← nearest_whole s small]
  congr 1
  unfold ofScaled
  split
  · next nonneg =>
    obtain ⟨k, rfl⟩ := Int.eq_ofNat_of_zero_le nonneg
    rw [zpow_natCast] at whole
    have same : m * 2 ^ k = n := by exact_mod_cast whole
    rw [Int.toNat_natCast, same]
  · next negative =>
    obtain ⟨k, same⟩ := Int.eq_ofNat_of_zero_le (a := -q) (by omega)
    obtain rfl : q = -(k : Int) := by omega
    rw [zpow_neg, zpow_natCast, mul_inv_eq_iff_eq_mul₀ (by positivity)] at whole
    have multiple : m = n * 2 ^ k := by exact_mod_cast whole
    have ratio : nearestMagnitude (n * 2 ^ k) (1 * 2 ^ k) = nearestMagnitude n 1 :=
      nearestMagnitude_mul n Nat.one_pos (Nat.two_pow_pos k)
    rw [Nat.one_mul] at ratio
    rw [same, Int.toNat_natCast, multiple, nearest, nearest, ratio]

/-! ## Sums -/

/-- The sum of two finite doubles is an integer on the finer one of their grids. -/
theorem add_of_rational (hx : x.rational? = some a) (hy : y.rational? = some b) :
    ∃ (s : Bool) (total base : Int), a + b = total * 2 ^ base ∧
      x + y = if total = 0 then zero s else ofScaled (decide (total < 0)) total.natAbs base := by
  obtain ⟨s, m, p, xParts, rfl⟩ := rational?_eq_some_iff.1 hx
  obtain ⟨t, k, q, yParts, rfl⟩ := rational?_eq_some_iff.1 hy
  have nonzero : (2 : ℚ) ^ min p q ≠ 0 := by positivity
  refine ⟨s && t, alignTo (min p q) s m p + alignTo (min p q) t k q, min p q, ?_, ?_⟩
  · rw [Int.cast_add, alignTo_cast (min_le_left p q), alignTo_cast (min_le_right p q), ← add_div,
      div_mul_cancel₀ _ nonzero]
  · show add x y = _
    rw [add, xParts, yParts]

/-- A sum that is a whole number of at most 53 bits is not rounded. -/
theorem add_whole (hx : x.rational? = some a) (hy : y.rational? = some b) {n : Int}
    (sum : a + b = n) (small : n.natAbs < 2 ^ 53) : (x + y).rational? = some (n : ℚ) := by
  obtain ⟨s, total, base, exact_, result⟩ := add_of_rational hx hy
  have positive : (0 : ℚ) < 2 ^ base := by positivity
  rw [exact_] at sum
  rw [result]
  split
  · next isZero =>
    rw [rational?_zero, ← sum, isZero, Int.cast_zero, zero_mul]
  · have sameSign : total < 0 ↔ n < 0 := by
      rw [← Int.cast_lt_zero (R := ℚ), ← Int.cast_lt_zero (R := ℚ), ← sum, ← neg_pos, ← neg_pos,
        ← neg_mul, mul_pos_iff_of_pos_right positive]
    have whole : (total.natAbs : ℚ) * 2 ^ base = n.natAbs := by
      rw [Nat.cast_natAbs, Nat.cast_natAbs, Int.cast_abs, Int.cast_abs, ← sum, abs_mul,
        abs_of_pos positive]
    rw [ofScaled_whole _ whole small, Nat.cast_natAbs, Int.cast_abs]
    by_cases negative : n < 0
    · have below : (n : ℚ) < 0 := by exact_mod_cast negative
      rw [if_pos (decide_eq_true (sameSign.2 negative)), abs_of_neg below, neg_neg]
    · have above : (0 : ℚ) ≤ n := by exact_mod_cast Int.not_lt.1 negative
      rw [if_neg (by simpa only [decide_eq_true_iff, sameSign] using negative), abs_of_nonneg above]

/-- A sum below zero is a negative number, rounded to whatever. -/
theorem add_negative (hx : x.rational? = some a) (hy : y.rational? = some b)
    (negative : a + b < 0) : (x + y).isNaN = false ∧ (x + y).isNegative = true := by
  obtain ⟨s, total, base, exact_, result⟩ := add_of_rational hx hy
  have positive : (0 : ℚ) < 2 ^ base := by positivity
  have below : total < 0 := by
    rw [exact_, ← neg_pos, ← neg_mul, mul_pos_iff_of_pos_right positive, neg_pos] at negative
    exact_mod_cast negative
  rw [result, if_neg below.ne, decide_eq_true below]
  unfold ofScaled
  split <;> exact ⟨isNaN_nearest .., isNegative_nearest ..⟩

/-! ## Integers inside a double -/

theorem wholePart_le {q : Int} (negative : ¬0 ≤ q) (m : Nat) : wholePart m q ≤ m := by
  rw [wholePart, if_neg negative]
  exact Nat.div_le_self ..

/-- Dropping the fraction is exact. -/
theorem integerPart_whole {n : Int} (whole : x.truncate? = some n) :
    x.integerPart.rational? = some (n : ℚ) := by
  cases parts : x.parts with
  | nan =>
    rw [truncate?, parts] at whole
    cases whole
  | infinite negative =>
    rw [truncate?, parts] at whole
    cases whole
  | finite s m q =>
    rw [truncate?, parts] at whole
    obtain rfl := Option.some.inj whole
    rw [integerPart, parts]
    dsimp only
    split
    · next nonneg =>
      rw [rational?_of_parts parts, scaled, wholePart, if_pos nonneg]
      obtain ⟨k, rfl⟩ := Int.eq_ofNat_of_zero_le nonneg
      cases s <;> simp
    · next negative =>
      have small : wholePart m q < 2 ^ 53 :=
        Nat.lt_of_le_of_lt (wholePart_le negative m) (significand_lt_of_parts parts)
      rw [ofScaled_whole s (by rw [zpow_zero, mul_one]) small]
      cases s <;> simp

/-- A double is a natural number if that is its absolute value, and if no other than zero has the
sign. -/
theorem scaled_eq_natCast {s : Bool} {m n : Nat} {q : Int} (value : scaled s m q = n) :
    wholePart m q = n ∧ (s = true → n = 0) := by
  have nonneg : (0 : ℚ) ≤ m * 2 ^ q := by positivity
  have magnitude : (m : ℚ) * 2 ^ q = n ∧ (s = true → n = 0) := by
    unfold scaled at value
    cases s with
    | false => exact ⟨value, nofun⟩
    | true =>
      rw [if_pos rfl, neg_mul] at value
      have isZero : (n : ℚ) = 0 := le_antisymm (by linarith) (Nat.cast_nonneg n)
      exact ⟨by linarith, fun _ => by exact_mod_cast isZero⟩
  rw [wholePart_eq_floor, magnitude.1, Nat.floor_natCast]
  exact ⟨rfl, magnitude.2⟩

theorem truncate?_whole {n : Nat} (whole : x.rational? = some (n : ℚ)) :
    x.truncate? = some (n : Int) := by
  obtain ⟨s, m, q, parts, value⟩ := rational?_eq_some_iff.1 whole
  obtain ⟨magnitude, sign⟩ := scaled_eq_natCast value
  simp only [truncate?, parts, magnitude]
  cases s with
  | false => rfl
  | true => rw [sign rfl]; rfl

theorem clampToUInt32_whole {n : Nat} (whole : x.rational? = some (n : ℚ)) (small : n < 2 ^ 32) :
    x.clampToUInt32.toNat = n := by
  obtain ⟨s, m, q, parts, value⟩ := rational?_eq_some_iff.1 whole
  obtain ⟨magnitude, sign⟩ := scaled_eq_natCast value
  simp only [clampToUInt32, parts, magnitude]
  cases s with
  | false =>
    rw [if_neg Bool.false_ne_true, UInt32.toNat_ofNat']
    omega
  | true => rw [sign rfl]; rfl

/-- Of a number that is not negative and a zero, the larger one is that number. -/
theorem larger_zero (hx : x.rational? = some a) (nonneg : 0 ≤ a) :
    (x.larger (zero false)).rational? = some a := by
  have zeroWhole := rational?_zero false
  rw [larger, isNaN_of_rational? hx, isNaN_of_rational? zeroWhole]
  simp only [Bool.false_eq_true, if_false]
  split
  · next below => rw [zeroWhole, le_antisymm ((atMost_iff hx zeroWhole).1 below) nonneg]
  · exact hx

theorem larger_zero_of_negative (number : x.isNaN = false) (negative : x.isNegative = true) :
    x.larger (zero false) = zero false := by
  have below : x.atMost (zero false) = true := by
    have zeroParts : (zero false).parts = .finite false 0 (-1074) := by decide
    have shape : x.parts = .infinite true ∨ x.parts = .finite true x.significand x.scale := by
      rw [parts, number, negative]
      cases x.isInfinite
      · exact .inr rfl
      · exact .inl rfl
    obtain infinite | finite := shape
    · rw [atMost, infinite, zeroParts]
    · rw [atMost, finite, zeroParts]
      simp only [alignTo, if_true, Bool.false_eq_true, if_false, Nat.cast_zero, zero_mul,
        decide_eq_true_eq, Left.neg_nonpos_iff]
      positivity
  have zeroNumber : (zero false).isNaN = false := by decide
  rw [larger, number, zeroNumber, below]
  rfl

/-- A natural number is not rounded, so it is its own truncation. -/
theorem truncate?_ofNat {n : Nat} (small : n < 2 ^ 53) : (ofNat n).truncate? = some (n : Int) :=
  truncate?_whole (ofNat_whole small)

/-- An index survives its way through a double. -/
theorem toUInt32_ofNat (n : UInt32) : (ofNat n.toNat).toUInt32 = n := by
  have small := n.toNat_lt
  rw [toUInt32, truncate?_ofNat (by omega)]
  apply UInt32.toNat.inj
  simp only [UInt32.toNat_ofNat']
  omega

end ObjectModel.Double
