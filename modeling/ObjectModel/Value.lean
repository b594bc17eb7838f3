import ObjectModel.Number.Layout
import ObjectModel.Number.Numeral

/-!
# Values

The values that properties hold and functions pass around.  Objects are referred to by handles, so
a value is finite data whatever the object graph looks like.  Two equalities matter: `sameValue`,
which reconciliation uses and which is an equivalence, and `strictEquals`, for which not-a-number
is different from itself and the two zeros are equal.
-/

namespace ObjectModel

/-- A reference to an object of a heap. -/
structure ObjectHandle where
  index : UInt32
deriving DecidableEq, Inhabited

/-- The text of a handle. -/
def ObjectHandle.toText (h : ObjectHandle) : String := "object#" ++ Nat.repr h.index.toNat

/-- A runtime value. -/
inductive Value where
  | undefined
  | null
  | bool (b : Bool)
  | number (x : Double)
  | string (s : String)
  | object (h : ObjectHandle)
deriving DecidableEq, Inhabited

namespace Value

def isUndefined : Value → Bool
  | undefined => true
  | _ => false

def isObject : Value → Bool
  | object _ => true
  | _ => false

def asObject? : Value → Option ObjectHandle
  | object h => some h
  | _ => none

def asNumber? : Value → Option Double
  | number x => some x
  | _ => none

/-- What `typeof` answers; the null value counts as an object. -/
def typeName : Value → String
  | undefined => "undefined"
  | null => "object"
  | bool _ => "boolean"
  | number _ => "number"
  | string _ => "string"
  | object _ => "object"

/-- Not-a-number is the same as itself, and the two zeros are different. -/
def sameValue : Value → Value → Bool
  | number x, number y => x.sameValue y
  | v, w => v == w

/-- Not-a-number equals nothing, and the two zeros are equal. -/
def strictEquals : Value → Value → Bool
  | number x, number y => x.equals y
  | v, w => v == w

/-- The number of a small natural number, such as an index or a length. -/
def ofUInt32 (n : UInt32) : Value := number (Double.ofNat n.toNat)

/-- Conversion to a number; undefined, objects and unreadable text become not-a-number. -/
def toNumber : Value → Double
  | undefined => .nan
  | null => .zero false
  | bool b => .ofNat b.toNat
  | number x => x
  | string s => .ofText s
  | object _ => .nan

/-- Conversion to a 32-bit unsigned integer: truncation, then the rest modulo `2 ^ 32`. -/
def toUInt32 (v : Value) : UInt32 := v.toNumber.toUInt32

/-- Conversion to an integer: truncation that keeps infinities and the sign of zero, with zero for
not-a-number. -/
def toInteger (v : Value) : Double :=
  let x := v.toNumber
  if x.isNaN then .zero false else x.integerPart

/-- The text that a script sees. -/
def toText : Value → String
  | undefined => "undefined"
  | null => "null"
  | bool b => if b then "true" else "false"
  | number x => x.toText
  | string s => s
  | object h => "[" ++ h.toText ++ "]"

end Value

end ObjectModel
