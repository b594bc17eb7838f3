import ObjectModel.Number.Numeral

/-!
# Property keys

A property key is a text.  The canonical array indices, `0` to `2 ^ 32 - 2` in decimal without
leading zeros, have a numeric value as well, and `PropertyKey.ofIndex n` names the same slot as the
text of `n`.
-/

namespace ObjectModel

/-- The name of a property. -/
structure PropertyKey where
  text : String
deriving DecidableEq, Inhabited

namespace PropertyKey

/-- The largest canonical array index. -/
def maxArrayIndex : Nat := 2 ^ 32 - 2

/-- The key that a number names: its decimal text. -/
def ofIndex (n : UInt32) : PropertyKey := ⟨Nat.repr n.toNat⟩

/-- The value of a canonical array index: at most ten decimal digits, no leading zero unless it is
`0` itself, and not above `maxArrayIndex`. -/
def arrayIndex? (key : PropertyKey) : Option UInt32 :=
  let cs := key.text.toList
  if cs.isEmpty ∨ 10 < cs.length ∨ ¬ cs.all Char.isDigit then none
  else if 1 < cs.length ∧ cs.head? = some '0' then none
  else if maxArrayIndex < digitsValue cs then none
  else some (UInt32.ofNat (digitsValue cs))

def isArrayIndex (key : PropertyKey) : Bool := key.arrayIndex?.isSome

end PropertyKey

end ObjectModel
