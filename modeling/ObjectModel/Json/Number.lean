import ObjectModel.Json.Basic

/-!
# The value of a JSON number

A number without fraction and exponent that fits in 64 bits is an integer.  As a double, a number is
its significand times a power of ten: the significand is the longest run of digits that stays below
`2 ^ 64`, and it is multiplied or divided once by the power, each step rounded.  Digits beyond the
significand are not looked at, so numbers with many digits may come out a unit off the nearest
double.  A number beyond the largest double has no value.
-/

namespace ObjectModel.Numeral

/-- The integer that an unsigned numeral is, below `2 ^ 64`. -/
def toNat? (n : Numeral) : Option Nat :=
  if n.negative ∨ !n.fraction.isEmpty ∨ !n.exponent.isEmpty then none
  else
    let value := digitsValue n.whole
    if value < 2 ^ 64 then some value else none

/-- Appends digits to a significand as long as it stays below `2 ^ 64`, and counts those that were
appended. -/
def extend (significand : Nat) : List Char → Nat × Nat
  | [] => (significand, 0)
  | c :: rest =>
    let next := 10 * significand + (c.toNat - '0'.toNat)
    if next < 2 ^ 64 then
      let (significand, count) := extend next rest
      (significand, count + 1)
    else (significand, 0)

/-- The significand and the power of ten that the digits alone stand for. -/
def significand (n : Numeral) : Nat × Int :=
  let (significand, count) := extend 0 n.whole
  let dropped : Int := n.whole.length - count
  let (significand, count) := extend significand n.fraction
  (significand, dropped - count)

/-- The double nearest to a power of ten. -/
def powerOfTen (k : Nat) : Double := .nearest false (10 ^ k) 1

/-- Multiplies a double by a power of ten; `none` if the product is infinite.  Very small powers are
reached in several steps, of which three leave nothing of any significand. -/
def timesPowerOfTen? : (steps : Nat) → Double → Int → Option Double
  | steps, x, exponent =>
    if exponent.natAbs ≤ 308 then
      if 0 ≤ exponent then
        let product := x * powerOfTen exponent.toNat
        if product.isFinite then some product else none
      else some (x / powerOfTen (-exponent).toNat)
    else if x.isZero then some x
    else if 0 < exponent then none
    else match steps with
      | 0 => some (.zero false)
      | steps + 1 => timesPowerOfTen? steps (x / powerOfTen 308) (exponent + 308)

/-- The double that a numeral stands for, if it is not beyond the largest one. -/
def toDouble? (n : Numeral) : Option Double :=
  let (significand, exponent) := n.significand
  let magnitude :=
    if significand = 0 then some (.zero false)
    else timesPowerOfTen? 3 (.ofNat significand) (exponent + n.exponentValue)
  magnitude.map fun x => if n.negative then -x else x

end ObjectModel.Numeral
