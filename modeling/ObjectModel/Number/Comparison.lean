import ObjectModel.Number.Rounding

/-!
# Comparing doubles

The order of the numbers that doubles stand for, the larger of two doubles, and the conversion to an
index, which takes what is out of range to the nearest bound.
-/

namespace ObjectModel.Double

/-- The order of the numbers: no not-a-number takes part in it, and the two zeros are equal. -/
def atMost (x y : Double) : Bool :=
  match x.parts, y.parts with
  | .nan, _ => false
  | _, .nan => false
  | .infinite s, .infinite t => s || !t
  | .infinite s, .finite .. => s
  | .finite .., .infinite t => !t
  | .finite s m p, .finite t n q =>
    let base := min p q
    decide (alignTo base s m p ≤ alignTo base t n q)

/-- The larger of two numbers; a not-a-number gives way to the other one. -/
def larger (x y : Double) : Double :=
  if x.isNaN then y else if y.isNaN then x else if x.atMost y then y else x

/-- The 32-bit unsigned integer that is nearest to a number without its fraction; zero for
not-a-number. -/
def clampToUInt32 (x : Double) : UInt32 :=
  match x.parts with
  | .nan => 0
  | .infinite negative => if negative then 0 else UInt32.ofNat (2 ^ 32 - 1)
  | .finite negative m q =>
    if negative then 0 else UInt32.ofNat (min (wholePart m q) (2 ^ 32 - 1))

end ObjectModel.Double
