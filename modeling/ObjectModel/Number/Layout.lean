import ObjectModel.Number.Shortest
import ObjectModel.Number.Numeral

/-!
# Layouts of a number

The digits of a double are written in one of two notations, positional (`0.00012`, `1200`) or
exponential (`1.2e-7`).  A `NumberLayout` says which exponents are written positionally, whether a
positional integer keeps a `.0`, how the exponent is marked and which of two equally near decimals
is written.  The three layouts of this library are values of that type:

* `plain` never uses an exponent;
* `debug` uses one below `10 ^ -4` and from `10 ^ 16` on, as `1.5e16`, `1e-5`;
* `json` uses one below `10 ^ -5` and from `10 ^ 16` on, as `1.5e+16`, `1e-6`.
-/

namespace ObjectModel

/-- How the digits of a nonzero number are laid out. -/
structure NumberLayout where
  /-- The leading exponents that are written positionally start here. -/
  positionalFrom : Option Int
  /-- The leading exponents that are written positionally end before this. -/
  positionalBelow : Option Int
  /-- A positional number without a fraction is followed by `.0`. -/
  keepsPoint : Bool
  /-- An exponent that is not negative is written with a plus sign. -/
  marksPositive : Bool
  /-- Which of two equally near shortest decimals is written. -/
  tie : Tie
deriving DecidableEq

namespace NumberLayout

/-- Positional notation always. -/
def plain : NumberLayout := ⟨none, none, false, false, .upward⟩

/-- The layout of numbers inside the structural text of a value. -/
def debug : NumberLayout := ⟨some (-4), some 16, true, false, .upward⟩

/-- The layout of numbers in JSON text. -/
def json : NumberLayout := ⟨some (-5), some 16, true, true, .even⟩

/-- Is a number with this leading exponent written positionally? -/
def isPositional (layout : NumberLayout) (leading : Int) : Bool :=
  layout.positionalFrom.all (fun low => decide (low ≤ leading)) &&
    layout.positionalBelow.all (fun high => decide (leading < high))

/-- The digits with the point at its place, filled up with zeros where digits are missing. -/
def positional (layout : NumberLayout) (negative : Bool) (d : Decimal) : Numeral :=
  let digits := d.text
  if 0 ≤ d.exponent then
    ⟨negative, digits ++ List.replicate d.exponent.toNat '0',
      if layout.keepsPoint then ['0'] else [], []⟩
  else
    let places := (-d.exponent).toNat
    if places < digits.length then
      let count := digits.length - places
      ⟨negative, digits.take count, digits.drop count, []⟩
    else ⟨negative, ['0'], List.replicate (places - digits.length) '0' ++ digits, []⟩

/-- One digit, the other digits after a point, and the exponent of the first digit. -/
def exponential (layout : NumberLayout) (negative : Bool) (d : Decimal) : Numeral :=
  let mark :=
    if d.leading < 0 then ['-'] else if layout.marksPositive then ['+'] else []
  ⟨negative, d.text.take 1, d.text.drop 1, mark ++ Nat.toDigits 10 d.leading.natAbs⟩

/-- The number `± m · 2 ^ q` in this layout: `0`, or its shortest decimal. -/
def numeral (layout : NumberLayout) (negative : Bool) (m : Nat) (q : Int) : Numeral :=
  if m = 0 then layout.positional negative ⟨0, 0⟩
  else
    let d := Double.shortestOf layout.tie m q
    if layout.isPositional d.leading then layout.positional negative d
    else layout.exponential negative d

end NumberLayout

namespace Double

/-- The text of a number as a script sees it: integers below `10 ^ 21` in full, other numbers by
their shortest decimal, always positional; a negative zero is `0`. -/
def toText (x : Double) : String :=
  match x.parts with
  | .nan => "NaN"
  | .infinite negative => if negative then "-Infinity" else "Infinity"
  | .finite negative m q =>
    if m = 0 then "0"
    else if x.isIntegral && decide (wholePart m q < 10 ^ 21) then
      (if negative then "-" else "") ++ Nat.repr (wholePart m q)
    else String.ofList (NumberLayout.plain.numeral negative m q).chars

/-- The text of a number inside the structural text of a value. -/
def toDebugText (x : Double) : String :=
  match x.parts with
  | .nan => "NaN"
  | .infinite negative => if negative then "-inf" else "inf"
  | .finite negative m q => String.ofList (NumberLayout.debug.numeral negative m q).chars

/-- The JSON numeral of a number; JSON has none for infinities and not-a-numbers. -/
def toJsonNumeral? (x : Double) : Option Numeral :=
  match x.parts with
  | .finite negative m q => some (NumberLayout.json.numeral negative m q)
  | _ => none

end Double

end ObjectModel
