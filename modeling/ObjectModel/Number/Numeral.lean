import ObjectModel.Number.Rounding
import ObjectModel.Text.Blank

/-!
# Numerals

A `Numeral` is a number as it is written in decimal: a sign, digits before and after the point and
an exponent.  This file has its text, its value, and the reading of the numerals that convert to a
number: an optional sign, then `inf`, `infinity` or `nan` in any case, or decimal digits with an
optional point, digits on at least one side of it, and an optional exponent.  Text that is no
numeral converts to not-a-number, and blank text to zero.
-/

namespace ObjectModel

/-- The value of a list of decimal digits. -/
def digitsValue (cs : List Char) : Nat :=
  cs.foldl (fun n c => 10 * n + (c.toNat - '0'.toNat)) 0

/-- A number written in decimal. -/
structure Numeral where
  negative : Bool
  /-- The digits before the point. -/
  whole : List Char
  /-- The digits after the point; empty if there is no point. -/
  fraction : List Char
  /-- The exponent with its sign, if it has one; empty if there is no exponent. -/
  exponent : List Char
deriving DecidableEq, Inhabited

namespace Numeral

/-- The text of a numeral. -/
def chars (n : Numeral) : List Char :=
  (if n.negative then ['-'] else []) ++ n.whole ++
    (if n.fraction.isEmpty then [] else '.' :: n.fraction) ++
    (if n.exponent.isEmpty then [] else 'e' :: n.exponent)

/-- The numeral of a natural number. -/
def ofNat (n : Nat) : Numeral := ⟨false, Nat.toDigits 10 n, [], []⟩

/-- Splits an optional sign from the characters: is it a minus, and the rest. -/
def takeSign : List Char → Bool × List Char
  | '-' :: rest => (true, rest)
  | '+' :: rest => (false, rest)
  | cs => (false, cs)

/-- The exponent as a number; zero if there is none. -/
def exponentValue (n : Numeral) : Int :=
  let (negative, digits) := takeSign n.exponent
  if negative then -(digitsValue digits : Int) else digitsValue digits

/-- The double nearest to a numeral. -/
def nearest (n : Numeral) : Double :=
  let digits := n.whole ++ n.fraction
  .ofDecimal n.negative (digitsValue digits) digits.length (n.exponentValue - n.fraction.length)

/-- The numeral that an unsigned text is, if it is one. -/
def read? (negative : Bool) (cs : List Char) : Option Numeral :=
  let whole := cs.takeWhile Char.isDigit
  let (fraction, rest) := match cs.dropWhile Char.isDigit with
    | '.' :: rest => (rest.takeWhile Char.isDigit, rest.dropWhile Char.isDigit)
    | rest => ([], rest)
  if whole.isEmpty && fraction.isEmpty then none
  else match rest with
    | [] => some ⟨negative, whole, fraction, []⟩
    | mark :: exponent =>
      let digits := (takeSign exponent).2
      if (mark == 'e' || mark == 'E') && !digits.isEmpty && digits.all Char.isDigit then
        some ⟨negative, whole, fraction, exponent⟩
      else none

end Numeral

namespace Double

/-- A number without blanks around it. -/
def ofWord? (cs : List Char) : Option Double :=
  let (negative, rest) := Numeral.takeSign cs
  let word := String.ofList (rest.map Char.toLower)
  if word = "inf" ∨ word = "infinity" then some (infinity negative)
  else if word = "nan" then some nan
  else (Numeral.read? negative rest).map Numeral.nearest

/-- The number that a text converts to. -/
def ofText (s : String) : Double :=
  let cs := Text.trimChars s.toList
  if cs.isEmpty then zero false else (ofWord? cs).getD nan

end Double

end ObjectModel
