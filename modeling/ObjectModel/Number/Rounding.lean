import ObjectModel.Number.Double

/-!
# Rounding to a double

Every arithmetic result here is an exact ratio of natural numbers that is rounded once, by
`Double.nearest`: to the nearest double, of two equally near ones to that with the even significand,
and to infinity from `2 ^ 1024 - 2 ^ 970` on.  Sums, products, quotients and decimal numerals are
all this one function applied to their exact value.
-/

namespace ObjectModel

namespace Double

/-- The integer nearest to `num / den`; of two equally near ones, the even one. -/
def roundHalfEven (num den : Nat) : Nat :=
  let quotient := num / den
  let rest := num % den
  if 2 * rest < den then quotient
  else if den < 2 * rest then quotient + 1
  else quotient + quotient % 2

/-- The ratio `(num / den) / 2 ^ q` as a numerator and a denominator. -/
def descale (num den : Nat) (q : Int) : Nat × Nat :=
  if 0 ≤ q then (num, den * 2 ^ q.toNat) else (num * 2 ^ (-q).toNat, den)

/-- The exponent `e` with `2 ^ e ≤ num / den < 2 ^ (e + 1)`, for positive `num` and `den`. -/
def floorLog2 (num den : Nat) : Int :=
  let e : Int := (num.log2 : Int) - den.log2
  let (n, d) := descale num den e
  if d ≤ n then e else e - 1

/-- The magnitude of the double nearest to `num / den`. -/
def nearestMagnitude (num den : Nat) : Nat :=
  if num = 0 then 0
  else
    let q := max (floorLog2 num den - 52) (-1074)
    let (n, d) := descale num den q
    min ((q + 1074).toNat * 2 ^ 52 + roundHalfEven n d) infiniteMagnitude

/-- The double nearest to `± num / den`. -/
def nearest (negative : Bool) (num den : Nat) : Double :=
  ofMagnitude negative (nearestMagnitude num den)

/-- The double nearest to `± m · 2 ^ q`. -/
def ofScaled (negative : Bool) (m : Nat) (q : Int) : Double :=
  if 0 ≤ q then nearest negative (m * 2 ^ q.toNat) 1 else nearest negative m (2 ^ (-q).toNat)

/-- The double nearest to a natural number. -/
def ofNat (n : Nat) : Double := nearest false n 1

/-- The double nearest to an integer; zero is positive. -/
def ofInt (n : Int) : Double := nearest (decide (n < 0)) n.natAbs 1

/-! ## Arithmetic -/

/-- The signed integer `± m · 2 ^ (q - base)`, for a `base` up to `q`. -/
def alignTo (base : Int) (negative : Bool) (m : Nat) (q : Int) : Int :=
  let aligned : Int := m * 2 ^ (q - base).toNat
  if negative then -aligned else aligned

/-- The sum, rounded once.  A sum of zero is negative only if both terms are. -/
def add (x y : Double) : Double :=
  match x.parts, y.parts with
  | .nan, _ => nan
  | _, .nan => nan
  | .infinite s, .infinite t => if s = t then infinity s else nan
  | .infinite s, .finite .. => infinity s
  | .finite .., .infinite t => infinity t
  | .finite s m p, .finite t n q =>
    let base := min p q
    let sum := alignTo base s m p + alignTo base t n q
    if sum = 0 then zero (s && t) else ofScaled (decide (sum < 0)) sum.natAbs base

/-- The product, rounded once. -/
def mul (x y : Double) : Double :=
  match x.parts, y.parts with
  | .nan, _ => nan
  | _, .nan => nan
  | .infinite s, .infinite t => infinity (s != t)
  | .infinite s, .finite t n _ => if n = 0 then nan else infinity (s != t)
  | .finite s m _, .infinite t => if m = 0 then nan else infinity (s != t)
  | .finite s m p, .finite t n q => ofScaled (s != t) (m * n) (p + q)

/-- The quotient, rounded once. -/
def div (x y : Double) : Double :=
  match x.parts, y.parts with
  | .nan, _ => nan
  | _, .nan => nan
  | .infinite _, .infinite _ => nan
  | .infinite s, .finite t _ _ => infinity (s != t)
  | .finite s _ _, .infinite t => zero (s != t)
  | .finite s m p, .finite t n q =>
    if n = 0 then (if m = 0 then nan else infinity (s != t))
    else
      let (num, den) := descale m n (q - p)
      nearest (s != t) num den

instance : Add Double := ⟨add⟩

instance : Mul Double := ⟨mul⟩

instance : Div Double := ⟨div⟩

/-- The opposite number. -/
def neg (x : Double) : Double := ofMagnitude (!x.isNegative) x.magnitude

instance : Neg Double := ⟨neg⟩

/-- The double without its fraction: truncation towards zero that keeps the sign, also of a zero,
and leaves infinities and not-a-numbers as they are. -/
def integerPart (x : Double) : Double :=
  match x.parts with
  | .finite negative m q => if 0 ≤ q then x else ofScaled negative (wholePart m q) 0
  | _ => x

/-! ## Decimal numbers -/

/-- The double nearest to `± digits · 10 ^ exponent`, where `digits` has at most `count` decimal
digits.  Exponents beyond any double are cut off before a power of ten is built. -/
def ofDecimal (negative : Bool) (digits count : Nat) (exponent : Int) : Double :=
  if digits = 0 then zero negative
  else if 400 < exponent then infinity negative
  else if exponent < -400 - count then zero negative
  else if 0 ≤ exponent then nearest negative (digits * 10 ^ exponent.toNat) 1
  else nearest negative digits (10 ^ (-exponent).toNat)

end Double

end ObjectModel
