import ObjectModel.Number.Rounding

/-!
# Shortest decimals

The shortest decimal of a double is the decimal with the fewest digits among those that round to
it, and of those with that many digits the nearest to it.  It is found by exact integer arithmetic:
for 1, 2, … 17 digits the two neighbours of the number on that decimal grid are tried, and the
first grid with a neighbour inside the rounding interval wins.  Two neighbours can be equally near,
as `.2` and `.3` are to a large number that ends in `.25`; a `Tie` says which of them is taken.
-/

namespace ObjectModel

/-- Which of two equally near decimals is taken. -/
inductive Tie where
  /-- The larger one. -/
  | upward
  /-- The one whose last digit is even. -/
  | even
deriving DecidableEq

/-- Is the smaller of two equally near decimals taken, given its digits? -/
def Tie.takesBelow : Tie → Nat → Bool
  | upward, _ => false
  | even, digits => digits % 2 == 0

/-- The positive number `digits · 10 ^ exponent`. -/
structure Decimal where
  digits : Nat
  exponent : Int
deriving DecidableEq, Inhabited

namespace Decimal

/-- The decimal digits, most significant first. -/
def text (d : Decimal) : List Char := Nat.toDigits 10 d.digits

/-- The exponent of the first digit: `d = x.yz… · 10 ^ leading`. -/
def leading (d : Decimal) : Int := d.exponent + d.text.length - 1

/-- Moves trailing zeros of the digits into the exponent, at most `fuel` of them. -/
def stripZeros : Nat → Decimal → Decimal
  | 0, d => d
  | fuel + 1, d =>
    if d.digits % 10 = 0 then stripZeros fuel ⟨d.digits / 10, d.exponent + 1⟩ else d

end Decimal

namespace Double

/-- The interval of the numbers that round to `m · 2 ^ q`, in units of `2 ^ (q - 2)`: its lower
end, the number itself and its upper end.  Below a power of two the neighbour is twice as near. -/
def roundingInterval (m : Nat) (q : Int) : Nat × Nat × Nat :=
  (if m = 2 ^ 52 ∧ -1074 < q then 4 * m - 1 else 4 * m - 2, 4 * m, 4 * m + 2)

/-- The exponent `e` with `10 ^ e ≤ num / den < 10 ^ (e + 1)`, for positive `num` and `den`. -/
def floorLog10 (num den : Nat) : Int :=
  if den ≤ num then (Nat.toDigits 10 (num / den)).length - 1
  else -(Nat.toDigits 10 ((den - 1) / num)).length

/-- The decimal of `count` digits nearest to `m · 2 ^ q` among those that round to it, if there is
one; `lead` is the exponent of the number's first digit.  The ends of the interval belong to it iff
`m` is even. -/
def decimalOfCount? (tie : Tie) (m : Nat) (q lead : Int) (count : Nat) : Option Decimal :=
  let exponent := lead + 1 - count
  -- the unit of the decimal grid and the unit of the interval, brought to integers
  let (grid, unit) : Nat × Nat :=
    (10 ^ exponent.toNat * 2 ^ (2 - q).toNat, 10 ^ (-exponent).toNat * 2 ^ (q - 2).toNat)
  let (low, mid, high) := roundingInterval m q
  let below := mid * unit / grid
  let above := below + 1
  let belowFits := if m % 2 = 0 then low * unit ≤ below * grid else low * unit < below * grid
  let aboveFits := if m % 2 = 0 then above * grid ≤ high * unit else above * grid < high * unit
  let toBelow := mid * unit - below * grid
  let toAbove := above * grid - mid * unit
  let belowNearer := toBelow < toAbove ∨ (toBelow = toAbove ∧ tie.takesBelow below)
  if belowFits ∧ (¬ aboveFits ∨ belowNearer) then some ⟨below, exponent⟩
  else if aboveFits then some ⟨above, exponent⟩
  else none

/-- The shortest decimal of the positive number `m · 2 ^ q`.  Seventeen digits always suffice. -/
def shortestOf (tie : Tie) (m : Nat) (q : Int) : Decimal :=
  let (num, den) := descale m 1 (-q)
  let lead := floorLog10 num den
  let found := (List.range 17).findSome? fun k => decimalOfCount? tie m q lead (k + 1)
  Decimal.stripZeros 17 (found.getD ⟨m, q⟩)

end Double

end ObjectModel
