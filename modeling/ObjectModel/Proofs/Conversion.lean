import ObjectModel.Proofs.Rational
import ObjectModel.Value

/-!
# Conversion to integers

Values are converted to integers by arithmetic on doubles: the sign times the absolute value rounded
down, and for 32 bits the remainder by `2 ^ 32`.  Each of these operations may round its result.
None of them does here, because a number that a double stands for is its own rounding
(`nearestMagnitude_of_double`), so the conversions give the integer left of the number itself when
its fraction is dropped (`Double.towardZero`).
-/

namespace ObjectModel

namespace Double

/-! ## The operations -/

/-- One with the sign of a number. -/
def signum (x : Double) : Double := if x.isNaN then x else nearest x.isNegative 1 1

/-- The number without its sign. -/
def absolute (x : Double) : Double := ofMagnitude false x.magnitude

/-- The greatest integer that is not above a number, rounded; a zero keeps its sign. -/
def roundedDown (x : Double) : Double :=
  match x.parts with
  | .finite negative m q =>
    let n : Int := if 0 ≤ q then alignTo 0 negative m q else alignTo q negative m q / 2 ^ (-q).toNat
    if n = 0 then zero negative else ofInt n
  | _ => x

/-- What is left of a number when as many multiples of another one as fit are taken away, rounded;
it has the sign of the number. -/
def remainder (x y : Double) : Double :=
  match x.parts, y.parts with
  | .nan, _ | _, .nan | .infinite _, _ => nan
  | .finite .., .infinite _ => x
  | .finite negative m p, .finite _ n q =>
    if n = 0 then nan
    else
      let base := min p q
      ofScaled negative (m * 2 ^ (p - base).toNat % (n * 2 ^ (q - base).toNat)) base

/-- The strict order of the numbers. -/
def isBelow (x y : Double) : Bool := x.atMost y && !y.atMost x

/-- The remainder that is not negative. -/
def euclideanRemainder (x y : Double) : Double :=
  let r := remainder x y
  if r.isBelow (zero false) then r + absolute y else r

/-- The number without its fraction. -/
def truncated (x : Double) : Double := signum x * roundedDown (absolute x)

/-- The integer part of a number, step by step. -/
def integerBySteps (x : Double) : Double :=
  if x.isNaN then zero false
  else if x.isInfinite || x.equals (zero false) then x
  else truncated x

/-- The 32-bit integer of a number, step by step. -/
def uint32BySteps (x : Double) : UInt32 :=
  if !x.isFinite || x.equals (zero false) then 0
  else (euclideanRemainder (truncated x) (ofNat (2 ^ 32))).clampToUInt32

/-! ## The number of a double is its own rounding -/

theorem scale_ge (x : Double) : -1074 ≤ x.scale := by
  unfold scale
  omega

/-- Either the significand is full or the scale is the smallest one. -/
theorem full_or_smallest (x : Double) : 2 ^ 52 ≤ x.significand ∨ x.scale = -1074 := by
  unfold significand scale
  split <;> omega

theorem roundHalfEven_whole (n : Nat) {den : Nat} (positive : 0 < den) :
    roundHalfEven (n * den) den = n := by
  simp [roundHalfEven, positive]

section Ratio

variable {y : Double} {num den : Nat} (positive : 0 < den)
  (value : (num : ℚ) / den = y.significand * 2 ^ y.scale)

include positive value

/-- A ratio that is the number of a double is rounded on the grid of the double. -/
theorem max_floorLog2_eq_scale (numPositive : 0 < num) :
    max (floorLog2 num den - 52) (-1074) = y.scale := by
  obtain ⟨low, high⟩ := floorLog2_spec numPositive positive
  rw [value] at low high
  have bounded : (y.significand : ℚ) < 2 ^ (53 : Int) := by exact_mod_cast y.significand_lt
  have below : (2 : ℚ) ^ floorLog2 num den < 2 ^ (y.scale + 53) := by
    refine lt_of_le_of_lt low ?_
    rw [add_comm, zpow_add₀ two_ne_zero]
    gcongr
  have atMost := (zpow_lt_zpow_iff_right₀ (one_lt_two (α := ℚ))).1 below
  have lowest := y.scale_ge
  obtain full | smallest := y.full_or_smallest
  · have filled : (2 : ℚ) ^ (52 : Int) ≤ y.significand := by exact_mod_cast full
    have above : (2 : ℚ) ^ (y.scale + 52) < 2 ^ (floorLog2 num den + 1) := by
      refine lt_of_le_of_lt ?_ high
      rw [add_comm, zpow_add₀ two_ne_zero]
      gcongr
    have atLeast := (zpow_lt_zpow_iff_right₀ (one_lt_two (α := ℚ))).1 above
    omega
  · omega

/-- On that grid the ratio is the significand, so there is nothing to round. -/
theorem descale_of_double : (descale num den y.scale).1 =
    y.significand * (descale num den y.scale).2 := by
  have ratio := descale_div num den y.scale
  have power : (2 : ℚ) ^ y.scale ≠ 0 := by positivity
  have denPos : ((descale num den y.scale).2 : ℚ) ≠ 0 := by
    exact_mod_cast (descale_den_pos positive y.scale).ne'
  rw [value, mul_div_cancel_right₀ _ power, div_eq_iff denPos] at ratio
  exact_mod_cast ratio

/-- A ratio that is the number of a double is rounded to that double. -/
theorem nearestMagnitude_of_double (finite : y.isFinite = true) :
    nearestMagnitude num den = y.magnitude := by
  have packed := y.magnitude_eq
  rw [isFinite, decide_eq_true_eq] at finite
  by_cases isZero : num = 0
  · subst isZero
    have none : y.significand = 0 := by
      have power : (2 : ℚ) ^ y.scale ≠ 0 := by positivity
      rw [Nat.cast_zero, zero_div, eq_comm, mul_eq_zero, or_iff_left power] at value
      exact_mod_cast value
    obtain full | smallest := y.full_or_smallest
    · omega
    · rw [nearestMagnitude, if_pos rfl]
      omega
  · have grid := max_floorLog2_eq_scale positive value (Nat.pos_of_ne_zero isZero)
    have scaledPositive : 0 < (descale num den y.scale).2 := descale_den_pos positive y.scale
    rw [nearestMagnitude, if_neg isZero]
    simp only [grid, descale_of_double positive value, roundHalfEven_whole _ scaledPositive]
    have lowest := y.scale_ge
    rw [Nat.min_eq_left] <;> omega

end Ratio

/-- A scaled number that a double stands for is rounded to that double, whatever its sign. -/
theorem ofScaled_of_double {y : Double} (finite : y.isFinite = true) (s : Bool) {m : Nat} {q : Int}
    (value : (m : ℚ) * 2 ^ q = y.significand * 2 ^ y.scale) :
    ofScaled s m q = ofMagnitude s y.magnitude := by
  unfold ofScaled
  split
  · next nonneg =>
    obtain ⟨k, rfl⟩ := Int.eq_ofNat_of_zero_le nonneg
    rw [zpow_natCast] at value
    rw [nearest, nearestMagnitude_of_double Nat.one_pos _ finite]
    rw [Int.toNat_natCast, ← value]
    push_cast
    rw [div_one]
  · next negative =>
    obtain ⟨k, same⟩ := Int.eq_ofNat_of_zero_le (a := -q) (by omega)
    obtain rfl : q = -(k : Int) := by omega
    rw [zpow_neg, zpow_natCast, ← div_eq_mul_inv] at value
    rw [nearest, nearestMagnitude_of_double (Nat.two_pow_pos _) _ finite]
    rw [same, Int.toNat_natCast, ← value]
    push_cast
    rfl

/-- The double with the magnitude of another one stands for the same number up to the sign. -/
theorem parts_ofMagnitude {y : Double} (finite : y.isFinite = true) (s : Bool) :
    (ofMagnitude s y.magnitude).parts = .finite s y.significand y.scale := by
  have same := magnitude_ofMagnitude s y.magnitude_lt
  have finite' : (ofMagnitude s y.magnitude).isFinite = true := by
    rwa [isFinite, same]
  rw [parts_of_finite finite', isNegative_ofMagnitude s y.magnitude_lt, significand, significand,
    scale, scale, same]

/-! ## Truncation -/

/-- The integer that is left of a number when its fraction is dropped. -/
def towardZero (a : ℚ) : Int := if 0 ≤ a then ⌊a⌋ else ⌈a⌉

theorem towardZero_scaled (s : Bool) (m : Nat) (q : Int) :
    towardZero (scaled s m q) = if s then -(wholePart m q : Int) else wholePart m q := by
  have nonneg : (0 : ℚ) ≤ m * 2 ^ q := by positivity
  rw [wholePart_eq_floor, Int.natCast_floor_eq_floor nonneg]
  unfold towardZero scaled
  cases s with
  | false => simp only [Bool.false_eq_true, if_false, if_pos nonneg]
  | true =>
    rw [if_pos rfl, if_pos rfl, neg_mul, Int.ceil_neg]
    split
    · next nonpos =>
      have isZero : (m : ℚ) * 2 ^ q = 0 := le_antisymm (by linarith) nonneg
      rw [isZero, neg_zero, Int.floor_zero, neg_zero]
    · rfl

theorem truncate?_eq {x : Double} {a : ℚ} (number : x.rational? = some a) :
    x.truncate? = some (towardZero a) := by
  obtain ⟨s, m, q, parts, rfl⟩ := rational?_eq_some_iff.1 number
  rw [truncate?, parts, towardZero_scaled]

/-! ## Sign times absolute value, rounded down -/

section Truncated

variable {x y : Double} {a b : ℚ}

theorem rational?_eq (number : x.rational? = some a) :
    x.isFinite = true ∧ scaled x.isNegative x.significand x.scale = a := by
  obtain ⟨s, m, q, parts, rfl⟩ := rational?_eq_some_iff.1 number
  have finite := finite_of_parts parts
  rw [parts_of_finite finite] at parts
  cases parts
  exact ⟨finite, rfl⟩

theorem abs_scaled (s : Bool) (m : Nat) (q : Int) : |scaled s m q| = m * 2 ^ q := by
  have nonneg : (0 : ℚ) ≤ m * 2 ^ q := by positivity
  unfold scaled
  cases s with
  | false => rw [if_neg Bool.false_ne_true, abs_of_nonneg nonneg]
  | true => rw [if_pos rfl, neg_mul, abs_neg, abs_of_nonneg nonneg]

theorem rational?_absolute (number : x.rational? = some a) :
    (absolute x).rational? = some |a| := by
  obtain ⟨finite, rfl⟩ := rational?_eq number
  rw [absolute, rational?_of_parts (parts_ofMagnitude finite false), abs_scaled]
  rfl

theorem rational?_signum (finite : x.isFinite = true) :
    (signum x).rational? = some (if x.isNegative then -1 else 1) := by
  rw [signum, isNaN_of_parts (parts_of_finite finite) (by simp), if_neg Bool.false_ne_true,
    nearest_whole _ (by decide), Nat.cast_one]

theorem wholePart_of_nonneg (nonneg : 0 ≤ x.scale) :
    (wholePart x.significand x.scale : ℚ) = x.significand * 2 ^ x.scale := by
  obtain ⟨k, scale⟩ := Int.eq_ofNat_of_zero_le nonneg
  rw [wholePart, if_pos nonneg, scale, Int.toNat_natCast, zpow_natCast]
  push_cast
  rfl

/-- A double without a fraction is its own whole part. -/
theorem nearestMagnitude_wholePart (finite : x.isFinite = true) (nonneg : 0 ≤ x.scale) :
    nearestMagnitude (wholePart x.significand x.scale) 1 = x.magnitude :=
  nearestMagnitude_of_double Nat.one_pos
    (by rw [wholePart_of_nonneg nonneg, Nat.cast_one, div_one]) finite

/-- The whole part of a double is not rounded: it is the double itself or below `2 ^ 53`. -/
theorem nearest_wholePart (finite : x.isFinite = true) (s : Bool) :
    (nearest s (wholePart x.significand x.scale) 1).rational? =
      some (if s then -(wholePart x.significand x.scale : ℚ)
        else wholePart x.significand x.scale) := by
  by_cases nonneg : 0 ≤ x.scale
  · rw [nearest, nearestMagnitude_wholePart finite nonneg,
      rational?_of_parts (parts_ofMagnitude finite s), wholePart_of_nonneg nonneg, scaled]
    cases s <;> simp
  · exact nearest_whole s (Nat.lt_of_le_of_lt (wholePart_le nonneg _) x.significand_lt)

theorem roundedDown_absolute (finite : x.isFinite = true) :
    roundedDown (absolute x) = ofNat (wholePart x.significand x.scale) := by
  have whole : ∀ n : Nat, (if (n : Int) = 0 then zero false else ofInt n) = ofNat n := by
    intro n
    by_cases isZero : n = 0
    · subst isZero
      rfl
    · rw [if_neg (by exact_mod_cast isZero), ofInt, Int.natAbs_natCast,
        decide_eq_false (by omega)]
      rfl
  rw [roundedDown, absolute, parts_ofMagnitude finite false, ← whole, wholePart]
  dsimp only
  split
  · simp [alignTo]
  · simp [alignTo]

/-- The product has the sign of the one factor and the magnitude of the other. -/
theorem truncated_eq (finite : x.isFinite = true) :
    truncated x = nearest x.isNegative (wholePart x.significand x.scale) 1 := by
  obtain ⟨wholeFinite, -⟩ := rational?_eq (nearest_wholePart finite false)
  have sign : signum x = nearest x.isNegative 1 1 := by
    rw [signum, isNaN_of_parts (parts_of_finite finite) (by simp), if_neg Bool.false_ne_true]
  have signParts : (signum x).parts = .finite x.isNegative (2 ^ 52) (-52) := by
    rw [sign, parts_nearest _ one_ne_zero (by decide)]
    rfl
  have one : ((2 ^ 52 : Nat) : ℚ) * 2 ^ (-52 : Int) = 1 := by norm_num
  show mul (signum x) (roundedDown (absolute x)) = _
  rw [roundedDown_absolute finite, mul, signParts, ofNat, parts_of_finite wholeFinite]
  dsimp only
  rw [ofScaled_of_double wholeFinite, isNegative_nearest, magnitude_nearest, Bool.bne_false]
  · rfl
  · rw [zpow_add₀ two_ne_zero, Nat.cast_mul, mul_mul_mul_comm, one, one_mul]

theorem integerPart_eq (finite : x.isFinite = true) :
    x.integerPart = nearest x.isNegative (wholePart x.significand x.scale) 1 := by
  rw [integerPart, parts_of_finite finite]
  dsimp only
  split
  · next nonneg =>
    rw [nearest, nearestMagnitude_wholePart finite nonneg, ofMagnitude_magnitude]
  · rw [ofScaled, if_pos le_rfl]
    simp

theorem rational?_truncated (number : x.rational? = some a) :
    (truncated x).rational? = some (towardZero a : ℚ) ∧
      (truncated x).isNegative = x.isNegative := by
  obtain ⟨finite, rfl⟩ := rational?_eq number
  rw [truncated_eq finite, nearest_wholePart finite, towardZero_scaled, isNegative_nearest]
  refine ⟨?_, rfl⟩
  cases x.isNegative <;> simp

/-! ## Remainders -/

theorem isBelow_iff (hx : x.rational? = some a) (hy : y.rational? = some b) :
    x.isBelow y = true ↔ a < b := by
  rw [isBelow, Bool.and_eq_true, Bool.not_eq_true', ← Bool.not_eq_true, atMost_iff hx hy,
    atMost_iff hy hx, not_le]
  exact and_iff_right_of_imp le_of_lt

/-- On a common grid, the remainder of two whole numbers is that of the numbers in units of it. -/
theorem remainder_aligned {m n M N : Nat} {p q base : Int} (left : (m : ℚ) * 2 ^ p = M)
    (right : (n : ℚ) * 2 ^ q = N) (below : base ≤ p) (below' : base ≤ q) :
    ((m * 2 ^ (p - base).toNat % (n * 2 ^ (q - base).toNat) : Nat) : ℚ) * 2 ^ base =
      (M % N : Nat) := by
  have aligned : ((m * 2 ^ (p - base).toNat : Nat) : ℚ) = M / 2 ^ base := by
    simpa [alignTo, scaled, left] using alignTo_cast below false m
  have aligned' : ((n * 2 ^ (q - base).toNat : Nat) : ℚ) = N / 2 ^ base := by
    simpa [alignTo, scaled, right] using alignTo_cast below' false n
  generalize m * 2 ^ (p - base).toNat = A at *
  generalize n * 2 ^ (q - base).toNat = B at *
  by_cases nonneg : 0 ≤ base
  · obtain ⟨k, rfl⟩ := Int.eq_ofNat_of_zero_le nonneg
    have power : (2 : ℚ) ^ k ≠ 0 := by positivity
    rw [zpow_natCast, eq_div_iff power] at aligned aligned'
    have coarse : A * 2 ^ k = M := by exact_mod_cast aligned
    have coarse' : B * 2 ^ k = N := by exact_mod_cast aligned'
    rw [zpow_natCast, ← coarse, ← coarse', Nat.mul_mod_mul_right]
    push_cast
    rfl
  · obtain ⟨k, same⟩ := Int.eq_ofNat_of_zero_le (a := -base) (by omega)
    obtain rfl : base = -(k : Int) := by omega
    have power : (2 : ℚ) ^ k ≠ 0 := by positivity
    rw [zpow_neg, zpow_natCast, div_inv_eq_mul] at aligned aligned'
    have fine : A = M * 2 ^ k := by exact_mod_cast aligned
    have fine' : B = N * 2 ^ k := by exact_mod_cast aligned'
    rw [zpow_neg, zpow_natCast, fine, fine', Nat.mul_mod_mul_right, Nat.cast_mul, Nat.cast_pow,
      Nat.cast_ofNat, mul_inv_cancel_right₀ power]

/-- The remainder by a natural number of at most 53 bits is not rounded. -/
theorem rational?_remainder {n : Int} {N : Nat} (whole : x.rational? = some (n : ℚ))
    (whole' : y.rational? = some (N : ℚ)) (positive : 0 < N) (small : N ≤ 2 ^ 53) :
    (remainder x y).rational? = some (n.tmod N : ℚ) := by
  obtain ⟨s, m, p, parts, value⟩ := rational?_eq_some_iff.1 whole
  obtain ⟨t, k, q, parts', value'⟩ := rational?_eq_some_iff.1 whole'
  have left : (m : ℚ) * 2 ^ p = n.natAbs := by
    rw [← abs_scaled s, value, Nat.cast_natAbs, Int.cast_abs]
  have right : (k : ℚ) * 2 ^ q = N := by
    rw [← abs_scaled t, value', abs_of_nonneg (Nat.cast_nonneg N)]
  have nonzero : k ≠ 0 := by
    rintro rfl
    rw [Nat.cast_zero, zero_mul] at right
    exact positive.ne (by exact_mod_cast right)
  have aligned := remainder_aligned left right (min_le_left p q) (min_le_right p q)
  have bounded : n.natAbs % N < 2 ^ 53 := Nat.lt_of_lt_of_le (Nat.mod_lt _ positive) small
  rw [remainder, parts, parts']
  dsimp only
  rw [if_neg nonzero, ofScaled_whole s aligned bounded]
  -- the remainder has the sign of the number, as that of a division towards zero has
  have nonneg : (0 : ℚ) ≤ m * 2 ^ p := by positivity
  unfold scaled at value
  cases s with
  | false =>
    have : 0 ≤ n := by
      rw [if_neg Bool.false_ne_true] at value
      rw [value] at nonneg
      exact_mod_cast nonneg
    obtain ⟨M, rfl⟩ := Int.eq_ofNat_of_zero_le this
    rw [Int.natAbs_natCast, if_neg Bool.false_ne_true, ← Int.ofNat_tmod, Int.cast_natCast]
  | true =>
    have : n ≤ 0 := by
      rw [if_pos rfl, neg_mul] at value
      have : (n : ℚ) ≤ 0 := by linarith
      exact_mod_cast this
    obtain ⟨M, same⟩ := Int.eq_ofNat_of_zero_le (a := -n) (by omega)
    obtain rfl : n = -(M : Int) := by omega
    rw [Int.natAbs_neg, Int.natAbs_natCast, if_pos rfl, Int.neg_tmod, ← Int.ofNat_tmod,
      Int.cast_neg, Int.cast_natCast]

/-- The remainder that is not negative is not rounded either. -/
theorem rational?_euclideanRemainder {n : Int} {N : Nat} (whole : x.rational? = some (n : ℚ))
    (whole' : y.rational? = some (N : ℚ)) (positive : 0 < N) (small : N ≤ 2 ^ 53) :
    (euclideanRemainder x y).rational? = some ((n % N : Int) : ℚ) := by
  have rest := rational?_remainder whole whole' positive small
  have modulus := rational?_absolute whole'
  rw [abs_of_nonneg (Nat.cast_nonneg N)] at modulus
  have below : (remainder x y).isBelow (zero false) = true ↔ n.tmod N < 0 := by
    rw [isBelow_iff rest (rational?_zero false), Int.cast_lt_zero]
  have nonneg := Int.emod_nonneg n (b := N) (by omega)
  have bounded := Int.emod_lt_of_pos n (b := N) (by omega)
  rw [euclideanRemainder]
  have division := Int.tmod_eq_emod (a := n) (b := N)
  split
  · next negative =>
    rw [below] at negative
    have sum : (n.tmod N : ℚ) + N = (n % N : Int) := by
      have : n.tmod N + N = n % N := by
        split at division <;> omega
      exact_mod_cast this
    exact add_whole rest modulus sum (by omega)
  · next other =>
    rw [below] at other
    have same : n.tmod N = n % N := by
      split at division <;> omega
    rw [rest, same]

/-! ## The steps together -/

theorem isNegative_iff (number : x.rational? = some a) (nonzero : a ≠ 0) :
    x.isNegative = true ↔ a < 0 := by
  obtain ⟨finite, rfl⟩ := rational?_eq number
  have nonneg : (0 : ℚ) ≤ x.significand * 2 ^ x.scale := by positivity
  generalize x.isNegative = s at *
  unfold scaled at nonzero ⊢
  cases s with
  | false =>
    rw [if_neg Bool.false_ne_true]
    exact iff_of_false Bool.false_ne_true (not_lt_of_ge nonneg)
  | true =>
    rw [if_pos rfl, neg_mul] at nonzero ⊢
    exact iff_of_true rfl (neg_lt_zero.2 (nonneg.lt_of_ne' (neg_ne_zero.1 nonzero)))

theorem rational?_of_isZero (isZero : x.isZero = true) : x.rational? = some 0 := by
  rw [Double.isZero, decide_eq_true_eq] at isZero
  have same := ofMagnitude_magnitude x
  rw [isZero] at same
  rw [← same]
  exact rational?_zero _

theorem equals_zero (x : Double) : x.equals (zero false) = x.isZero := by
  have zeroNumber : (zero false).isNaN = false := by decide
  have isZero : (zero false).isZero = true := by decide
  rw [equals, zeroNumber, isZero]
  cases own : x.isZero with
  | false =>
    have other : (x == zero false) = false := by
      refine beq_false_of_ne ?_
      rintro rfl
      rw [isZero] at own
      cases own
    rw [other]
    simp
  | true =>
    rw [isNaN_of_rational? (rational?_of_isZero own)]
    simp

/-- Each step of a conversion yields what it yields in exact arithmetic. -/
structure ExactSteps (x : Double) (a : ℚ) : Prop where
  signum : (signum x).rational? = some (if a < 0 then -1 else 1)
  absolute : (absolute x).rational? = some |a|
  roundedDown : (roundedDown (Double.absolute x)).rational? = some (⌊|a|⌋ : ℚ)
  truncated : (truncated x).rational? = some (towardZero a : ℚ)
  modulus : (ofNat (2 ^ 32)).rational? = some (2 ^ 32)
  remainder : (remainder (Double.truncated x) (ofNat (2 ^ 32))).rational? =
    some ((towardZero a).tmod (2 ^ 32) : ℚ)
  euclidean : (euclideanRemainder (Double.truncated x) (ofNat (2 ^ 32))).rational? =
    some ((towardZero a % 2 ^ 32 : Int) : ℚ)
  clamped : ((euclideanRemainder (Double.truncated x) (ofNat (2 ^ 32))).clampToUInt32.toNat : Int) =
    towardZero a % 2 ^ 32

theorem exactSteps (number : x.rational? = some a) (nonzero : a ≠ 0) : x.ExactSteps a := by
  obtain ⟨finite, value⟩ := rational?_eq number
  obtain ⟨product, -⟩ := rational?_truncated number
  have modulus : (ofNat (2 ^ 32)).rational? = some ((2 ^ 32 : Nat) : ℚ) := ofNat_whole (by decide)
  have rest := rational?_remainder product modulus (by decide) (by decide)
  have euclidean := rational?_euclideanRemainder product modulus (by decide) (by decide)
  have nonneg := Int.emod_nonneg (towardZero a) (b := 2 ^ 32) (by decide)
  have bounded := Int.emod_lt_of_pos (towardZero a) (b := 2 ^ 32) (by decide)
  exact
    { signum := by
        rw [rational?_signum finite]
        simp only [isNegative_iff number nonzero]
      absolute := rational?_absolute number
      roundedDown := by
        have whole := nearest_wholePart finite false
        rw [if_neg Bool.false_ne_true] at whole
        rw [roundedDown_absolute finite, ofNat, whole, ← value, abs_scaled, wholePart_eq_floor,
          natCast_floor_eq_intCast_floor (by positivity)]
      truncated := product
      modulus := by rw [modulus]; norm_num
      remainder := by exact_mod_cast rest
      euclidean := by exact_mod_cast euclidean
      clamped := by
        obtain ⟨n, same⟩ := Int.eq_ofNat_of_zero_le nonneg
        have natural : (euclideanRemainder (Double.truncated x) (ofNat (2 ^ 32))).rational? =
            some (n : ℚ) := by
          rw [euclidean]
          exact_mod_cast congrArg (fun k : Int => some (k : ℚ)) same
        rw [clampToUInt32_whole natural (by omega), same] }

end Truncated

/-! ## The conversions -/

section Conversion

variable {x : Double} {a : ℚ}

theorem toUInt32_eq (number : x.rational? = some a) :
    (x.toUInt32.toNat : Int) = towardZero a % 2 ^ 32 := by
  rw [toUInt32, truncate?_eq number]
  dsimp only
  rw [UInt32.toNat_ofNat']
  omega

theorem rational?_eq_none_iff : x.rational? = none ↔ x.isFinite = false := by
  constructor
  · intro none
    by_contra finite
    rw [rational?, parts_of_finite (Bool.eq_true_of_not_eq_false finite)] at none
    cases none
  · intro infinite
    rw [Option.eq_none_iff_forall_ne_some]
    intro a number
    rw [(rational?_eq number).1] at infinite
    cases infinite

theorem truncate?_of_not_finite (infinite : x.isFinite = false) : x.truncate? = none := by
  have none := rational?_eq_none_iff.2 infinite
  unfold rational? at none
  unfold truncate?
  cases parts : x.parts <;> simp_all

theorem isZero_iff : x.isZero = true ↔ x.rational? = some 0 := by
  refine ⟨rational?_of_isZero, fun number => ?_⟩
  obtain ⟨-, value⟩ := rational?_eq number
  have power : (2 : ℚ) ^ x.scale ≠ 0 := by positivity
  have none : x.significand = 0 := by
    rw [← abs_eq_zero, abs_scaled, mul_eq_zero, or_iff_left power] at value
    exact_mod_cast value
  have packed := x.magnitude_eq
  have full := x.full_or_smallest
  rw [Double.isZero, decide_eq_true_eq]
  omega

/-- A conversion to 32 bits comes out the same by its steps. -/
theorem uint32BySteps_eq (x : Double) : x.uint32BySteps = x.toUInt32 := by
  unfold uint32BySteps
  rw [equals_zero]
  cases finite : x.isFinite with
  | false =>
    rw [toUInt32, truncate?_of_not_finite finite]
    rfl
  | true =>
    have number := rational?_of_parts (parts_of_finite finite)
    generalize scaled x.isNegative x.significand x.scale = a at number
    have integer := toUInt32_eq number
    apply UInt32.toNat.inj
    cases isZero : x.isZero with
    | true =>
      rw [rational?_of_isZero isZero] at number
      cases number
      have none : towardZero 0 = 0 := by simp [towardZero]
      rw [none] at integer
      exact_mod_cast integer.symm
    | false =>
      have nonzero : a ≠ 0 := by
        rintro rfl
        rw [isZero_iff.2 number] at isZero
        cases isZero
      have clamped := (exactSteps number nonzero).clamped
      rw [← integer] at clamped
      exact_mod_cast clamped

theorem integerPart_self (special : x.isInfinite = true ∨ x.isZero = true) : x.integerPart = x := by
  obtain infinite | isZero := special
  · have number : x.isNaN = false := by
      rw [isInfinite, decide_eq_true_eq] at infinite
      rw [isNaN, infinite, decide_eq_false (lt_irrefl _)]
    rw [integerPart, parts, number, infinite]
    rfl
  · obtain ⟨finite, -⟩ := rational?_eq (rational?_of_isZero isZero)
    rw [Double.isZero, decide_eq_true_eq] at isZero
    have none : wholePart x.significand x.scale = 0 := by
      rw [significand, isZero, if_pos (by decide)]
      simp [wholePart]
    have same := ofMagnitude_magnitude x
    rw [isZero] at same
    rw [integerPart_eq finite, none]
    exact same

/-- So does the integer part. -/
theorem integerBySteps_eq (x : Double) :
    x.integerBySteps = if x.isNaN then zero false else x.integerPart := by
  unfold integerBySteps
  rw [equals_zero]
  cases number : x.isNaN with
  | true => rfl
  | false =>
    rw [if_neg Bool.false_ne_true, if_neg Bool.false_ne_true]
    split
    · next special => exact (integerPart_self (Bool.or_eq_true_iff.1 special)).symm
    · next other =>
      have finite : x.isFinite = true := by
        simp only [isNaN, isInfinite, Bool.or_eq_true, not_or, decide_eq_true_eq,
          decide_eq_false_iff_not] at number other
        rw [isFinite, decide_eq_true_eq]
        omega
      rw [truncated_eq finite, integerPart_eq finite]

end Conversion

end Double

namespace Value

/-- The conversions of a value to 32 bits and to an integer go by its number.  Not-a-number and the
infinities have the 32-bit integer zero; any other number has the integer that is left when its
fraction is dropped, modulo `2 ^ 32`.  The integer of not-a-number is zero, that of an infinity or a
zero is itself, and that of any other number is the double that stands for the integer left, with
the sign of the number.  Both are what the steps of the conversions come to, of which none
rounds. -/
theorem integer_conversions_exact (v : Value) :
    (v.toNumber.isNaN = true ∨ v.toNumber.isInfinite = true → v.toUInt32 = 0) ∧
    (v.toNumber.isNaN = true → v.toInteger = .zero false) ∧
    (v.toNumber.isInfinite = true ∨ v.toNumber.isZero = true → v.toInteger = v.toNumber) ∧
    (v.toNumber.isFinite = true → ∃ a, v.toNumber.rational? = some a ∧
      (v.toUInt32.toNat : Int) = Double.towardZero a % 2 ^ 32 ∧
      v.toInteger.rational? = some (Double.towardZero a : ℚ) ∧
      v.toInteger.isNegative = v.toNumber.isNegative ∧
      (a ≠ 0 → v.toNumber.ExactSteps a)) ∧
    v.toUInt32 = v.toNumber.uint32BySteps ∧ v.toInteger = v.toNumber.integerBySteps := by
  have integer : v.toInteger =
      if v.toNumber.isNaN then .zero false else v.toNumber.integerPart := rfl
  have wrapped : v.toUInt32 = v.toNumber.toUInt32 := rfl
  rw [integer, wrapped]
  generalize v.toNumber = x
  refine ⟨fun special => ?_, fun isNaN => by rw [isNaN, if_pos rfl], fun special => ?_,
    fun finite => ?_, x.uint32BySteps_eq.symm, x.integerBySteps_eq.symm⟩
  · have infinite : x.isFinite = false := by
      simp only [Double.isNaN, Double.isInfinite, decide_eq_true_eq] at special
      exact decide_eq_false (by omega)
    rw [Double.toUInt32, Double.truncate?_of_not_finite infinite]
  · have number : x.isNaN = false := by
      simp only [Double.isZero, Double.isInfinite, decide_eq_true_eq] at special
      refine decide_eq_false ?_
      unfold Double.infiniteMagnitude at *
      omega
    rw [number, if_neg Bool.false_ne_true, Double.integerPart_self special]
  · have number := Double.rational?_of_parts (Double.parts_of_finite finite)
    obtain ⟨exact_, sign⟩ := Double.rational?_truncated number
    rw [Double.truncated_eq finite, ← Double.integerPart_eq finite] at exact_ sign
    rw [Double.isNaN_of_rational? number, if_neg Bool.false_ne_true]
    exact ⟨_, number, Double.toUInt32_eq number, exact_, sign, Double.exactSteps number⟩

/-- A fraction below a negative multiple of `2 ^ 32`, -4294967297.75: dropping it leaves one below
the multiple. -/
theorem conversions_below_multiple :
    let x : Double := ⟨0xc1f00000001c0000⟩
    x.isFinite = true ∧ x.rational? = some (-17179869191 / 4) ∧
    (number x).toUInt32 = 4294967295 ∧
    (number x).toInteger.rational? = some (-4294967297) ∧
    (number x).toInteger.isNegative = true ∧ x.ExactSteps (-17179869191 / 4) := by
  intro x
  have finite : x.isFinite = true := by decide
  have value : x.rational? = some (-17179869191 / 4) := by
    have parts : x.parts = .finite true 4503599629205504 (-20) := by decide
    rw [Double.rational?_of_parts parts, Double.scaled, if_pos rfl]
    norm_num
  obtain ⟨-, -, -, converts, -⟩ := integer_conversions_exact (number x)
  obtain ⟨a, same, wrapped, integer, sign, steps⟩ := converts finite
  obtain rfl : -17179869191 / 4 = a := Option.some.inj (value.symm.trans same)
  have left : Double.towardZero (-17179869191 / 4) = -4294967297 := by
    norm_num [Double.towardZero]
  have rest : (-4294967297 : Int) % 2 ^ 32 = (4294967295 : UInt32).toNat := by decide
  rw [left] at wrapped integer
  rw [rest] at wrapped
  refine ⟨finite, value, ?_, ?_, ?_, steps (by norm_num)⟩
  · apply UInt32.toNat.inj
    exact_mod_cast wrapped
  · rw [integer]
    norm_num
  · rw [sign]
    decide

end Value

end ObjectModel
