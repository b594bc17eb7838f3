import ObjectModel.Number.Power

/-!
# Doubles

A `Double` is a binary64 number held as its 64 bits, so that every not-a-number payload and both
zeros are kept apart.  The bits below the sign are read as one natural number, the *magnitude*; it
grows with the absolute value, which is `significand · 2 ^ scale`:

* `magnitude = (scale + 1074) · 2 ^ 52 + significand` for every finite double, subnormal or not
  (`magnitude_eq`), so that a rounded significand is packed by one addition, carries included;
* magnitudes from `infiniteMagnitude` on are the infinity and then the not-a-numbers.

Everything that asks for the number itself goes through `parts`.
-/

namespace ObjectModel

/-- A binary64 floating point number, given by its bits. -/
structure Double where
  bits : UInt64
deriving DecidableEq, Inhabited

namespace Double

/-- The magnitude of an infinity; larger magnitudes are not numbers. -/
def infiniteMagnitude : Nat := 2047 * 2 ^ 52

/-- The bits below the sign bit, as a natural number. -/
def magnitude (x : Double) : Nat := x.bits.toNat % 2 ^ 63

/-- The sign bit, also of zeros and of not-a-numbers. -/
def isNegative (x : Double) : Bool := decide (2 ^ 63 ≤ x.bits.toNat)

/-- The double with the given sign and magnitude. -/
def ofMagnitude (negative : Bool) (magnitude : Nat) : Double :=
  ⟨UInt64.ofNat (if negative then 2 ^ 63 + magnitude else magnitude)⟩

def isNaN (x : Double) : Bool := decide (infiniteMagnitude < x.magnitude)

def isInfinite (x : Double) : Bool := decide (x.magnitude = infiniteMagnitude)

def isFinite (x : Double) : Bool := decide (x.magnitude < infiniteMagnitude)

/-- Both zeros. -/
def isZero (x : Double) : Bool := decide (x.magnitude = 0)

/-- The quiet not-a-number without a payload. -/
def nan : Double := ⟨0x7ff8000000000000⟩

def infinity (negative : Bool) : Double := ofMagnitude negative infiniteMagnitude

def zero (negative : Bool) : Double := ofMagnitude negative 0

/-- The integer factor of a finite double. -/
def significand (x : Double) : Nat :=
  if x.magnitude < 2 ^ 52 then x.magnitude else x.magnitude % 2 ^ 52 + 2 ^ 52

/-- The power of two that the significand is multiplied by. -/
def scale (x : Double) : Int := (max (x.magnitude / 2 ^ 52) 1 : Nat) - 1075

/-- What the bits of a double stand for. -/
inductive Parts where
  | nan
  | infinite (negative : Bool)
  /-- The number `± significand · 2 ^ scale`. -/
  | finite (negative : Bool) (significand : Nat) (scale : Int)
deriving DecidableEq

/-- Reads the bits. -/
def parts (x : Double) : Parts :=
  if x.isNaN then .nan
  else if x.isInfinite then .infinite x.isNegative
  else .finite x.isNegative x.significand x.scale

/-- The magnitude of a finite double is its packed significand and scale. -/
theorem magnitude_eq (x : Double) :
    (x.magnitude : Int) = (x.scale + 1074) * 2 ^ 52 + x.significand := by
  unfold significand scale
  split <;> omega

theorem magnitude_lt (x : Double) : x.magnitude < 2 ^ 63 := Nat.mod_lt _ (by decide)

/-- Sign and magnitude are all there is to a double. -/
theorem ofMagnitude_magnitude (x : Double) : ofMagnitude x.isNegative x.magnitude = x := by
  obtain ⟨b⟩ := x
  have := b.toNat_lt
  simp only [ofMagnitude, isNegative, magnitude, decide_eq_true_eq, Double.mk.injEq]
  apply UInt64.toNat.inj
  rw [UInt64.toNat_ofNat']
  split <;> omega

theorem magnitude_ofMagnitude (s : Bool) {n : Nat} (h : n < 2 ^ 63) :
    (ofMagnitude s n).magnitude = n := by
  simp only [ofMagnitude, magnitude, UInt64.toNat_ofNat']
  split <;> omega

theorem isNegative_ofMagnitude (s : Bool) {n : Nat} (h : n < 2 ^ 63) :
    (ofMagnitude s n).isNegative = s := by
  simp only [ofMagnitude, isNegative, UInt64.toNat_ofNat']
  cases s <;> simp <;> omega

/-! ## Comparison -/

/-- Equality of the numbers: no not-a-number equals anything, and the two zeros are equal. -/
def equals (x y : Double) : Bool :=
  !x.isNaN && !y.isNaN && (x == y || (x.isZero && y.isZero))

/-- Equality of what is observed: all not-a-numbers are one value, and the two zeros differ. -/
def sameValue (x y : Double) : Bool :=
  (x.isNaN && y.isNaN) || (x.equals y && x.isNegative == y.isNegative)

theorem sameValue_iff (x y : Double) :
    x.sameValue y = true ↔ (x.isNaN = true ∧ y.isNaN = true) ∨ x = y := by
  have key : x.isZero = true → y.isZero = true → x.isNegative = y.isNegative → x = y := by
    intro hx hy hs
    rw [← ofMagnitude_magnitude x, ← ofMagnitude_magnitude y, hs]
    simp only [isZero, decide_eq_true_eq] at hx hy
    rw [hx, hy]
  simp only [sameValue, equals, Bool.or_eq_true, Bool.and_eq_true, Bool.not_eq_eq_eq_not,
    Bool.not_true, beq_iff_eq]
  constructor
  · rintro (h | ⟨⟨_, h | ⟨hx, hy⟩⟩, hs⟩)
    · exact .inl h
    · exact .inr h
    · exact .inr (key hx hy hs)
  · rintro (h | rfl)
    · exact .inl h
    · cases hn : x.isNaN <;> simp

/-! ## Integers inside a double -/

/-- The whole part of `m · 2 ^ q`. -/
def wholePart (m : Nat) (q : Int) : Nat :=
  if 0 ≤ q then m * 2 ^ q.toNat else m / 2 ^ (-q).toNat

/-- The integer left after the fraction is dropped, towards zero; `none` for infinities and
not-a-numbers. -/
def truncate? (x : Double) : Option Int :=
  match x.parts with
  | .finite negative m q => some (if negative then -(wholePart m q : Int) else wholePart m q)
  | _ => none

/-- Truncation towards zero, modulo `2 ^ 32`; infinities and not-a-numbers give zero. -/
def toUInt32 (x : Double) : UInt32 :=
  match x.truncate? with
  | some n => UInt32.ofNat (n % 2 ^ 32).toNat
  | none => 0

/-- There is no fraction to drop. -/
def isIntegral (x : Double) : Bool :=
  match x.parts with
  | .finite _ m q => decide (0 ≤ q) || m % 2 ^ (-q).toNat == 0
  | _ => false

end Double

end ObjectModel
