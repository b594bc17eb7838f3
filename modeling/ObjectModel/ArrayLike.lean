import ObjectModel.Number.Comparison
import ObjectModel.Program

/-!
# Array algorithms

Algorithms on any object with a `length`, by reading, writing and asking for properties alone.  The
length is read once, before the first index, and each index is asked for again when it is reached:
functions called on the way can change what is read later but not how far the loop goes.
-/

namespace ObjectModel.ArrayLike

variable {β σ : Type}

/-- The key of the length. -/
def lengthKey : PropertyKey := ⟨"length"⟩

/-- The literal of an open data property. -/
def openFields (value : Value) : DescriptorFields := .ofDescriptor (.openData value)

/-- The length of an object, as a 32-bit number. -/
def lengthOf (object : ObjectHandle) : Program β σ UInt32 := do
  return (← Program.getValue object lengthKey).toUInt32

/-- Is it an array? -/
def isArray (object : ObjectHandle) : Program β σ Bool := do
  return (← Program.object object).classTag == some "Array"

/-! ## Array literals -/

/-- A new array without elements, of the given length. -/
def newArray (length : UInt32) : Program β σ ObjectHandle := do
  let intrinsics ← Program.inspect Realm.intrinsics
  let array ← Program.allocate (some intrinsics.arrayPrototype) "Array"
  let _ ← Program.define array lengthKey
    (.ofDescriptor (.data (.ofUInt32 length) true false false))
  return array

/-- Defines elements at an index and those after it, leaving out the holes. -/
def defineElements (array : ObjectHandle) : Nat → List (Option Value) → Program β σ Unit
  | _, [] => pure ()
  | index, none :: rest => defineElements array (index + 1) rest
  | index, some value :: rest => do
    let _ ← Program.define array (.ofIndex (UInt32.ofNat index)) (openFields value)
    defineElements array (index + 1) rest

/-- An array literal, with `none` for a hole. -/
def createWithHoles (elements : List (Option Value)) : Program β σ ObjectHandle := do
  let array ← newArray (UInt32.ofNat elements.length)
  defineElements array 0 elements
  return array

/-- An array literal. -/
def create (values : List Value) : Program β σ ObjectHandle := createWithHoles (values.map some)

/-! ## Loops over the indices -/

/-- Where a search from an optional index starts: numbers below zero count from the end, and `none`
means at or behind the end.  The negative zero is not below zero. -/
def searchStart? (length : UInt32) (fromIndex : Option Value) : Option UInt32 :=
  let n := (fromIndex.map Value.toInteger).getD (.zero false)
  let bound := Double.ofNat length.toNat
  if bound.atMost n then none
  else
    let start := if (Double.zero false).atMost n then n else (bound + n).larger (.zero false)
    some start.clampToUInt32

/-- The first of `count` indices from `index` on whose element strictly equals a value. -/
def findIndex (object : ObjectHandle) (search : Value) :
    (count index : Nat) → Program β σ (Option UInt32)
  | 0, _ => pure none
  | count + 1, index => do
    let key := PropertyKey.ofIndex (UInt32.ofNat index)
    if ← Program.has object key then
      if (← Program.getValue object key).strictEquals search then
        return some (UInt32.ofNat index)
      else findIndex object search count (index + 1)
    else findIndex object search count (index + 1)

/-- The first index of a value, from an optional index on. -/
def indexOf (object : ObjectHandle) (search : Value) (fromIndex : Option Value) :
    Program β σ (Option UInt32) := do
  let length ← lengthOf object
  if length = 0 then return none
  else match searchStart? length fromIndex with
    | none => return none
    | some start => findIndex object search (length.toNat - start.toNat) start.toNat

/-- The receiver of callbacks: the global object stands in for undefined and null. -/
def callbackThis (thisArg : Value) : Program β σ Value := do
  let intrinsics ← Program.inspect Realm.intrinsics
  return match thisArg with
    | .undefined | .null => .object intrinsics.global
    | v => v

/-- Calls a function on each element that is present when its index is reached, for `count` indices
from `index` on, and hands each result to `use`. -/
def visit (object callback : ObjectHandle) (this : Value)
    (use : UInt32 → Value → Program β σ Unit) : (count index : Nat) → Program β σ Unit
  | 0, _ => pure ()
  | count + 1, index => do
    let k := UInt32.ofNat index
    if ← Program.has object (.ofIndex k) then
      let value ← Program.getValue object (.ofIndex k)
      let result ← Program.call callback this [value, .ofUInt32 k, .object object]
      use k result
    visit object callback this use count (index + 1)

/-- Calls a function on each element. -/
def forEach (object callback : ObjectHandle) (thisArg : Value) : Program β σ Unit := do
  let length ← lengthOf object
  Program.requireCallable callback
  let this ← callbackThis thisArg
  visit object callback this (fun _ _ => pure ()) length.toNat 0

/-- A new array of the results of a function on each element; holes stay holes. -/
def map (object callback : ObjectHandle) (thisArg : Value) : Program β σ ObjectHandle := do
  let length ← lengthOf object
  Program.requireCallable callback
  let this ← callbackThis thisArg
  let result ← newArray length
  visit object callback this
    (fun k value => do let _ ← Program.define result (.ofIndex k) (openFields value))
    length.toNat 0
  return result

/-- The next length, which stays at the largest one. -/
def nextLength (length : UInt32) : UInt32 :=
  if length = UInt32.ofNat (2 ^ 32 - 1) then length else length + 1

/-- Writes values at an index and those after it; the index behind the last one. -/
def putElements (object : ObjectHandle) (length : UInt32) : List Value → Program β σ UInt32
  | [] => pure length
  | value :: rest => do
    Program.putValue object (.ofIndex length) value
    putElements object (nextLength length) rest

/-- Appends values; the new length. -/
def push (object : ObjectHandle) (values : List Value) : Program β σ UInt32 := do
  let length ← putElements object (← lengthOf object) values
  Program.putValue object lengthKey (.ofUInt32 length)
  return length

/-- The text of an element in a joined text: empty for undefined and null. -/
def elementText : Value → String
  | .undefined | .null => ""
  | v => v.toText

/-- Reads the texts of `count` elements from `index` on, onto those read before, the last one
first. -/
def elementTexts (object : ObjectHandle) :
    (count index : Nat) → List String → Program β σ (List String)
  | 0, _, texts => pure texts
  | count + 1, index, texts => do
    let value ← Program.getValue object (.ofIndex (UInt32.ofNat index))
    elementTexts object count (index + 1) (elementText value :: texts)

/-- The texts of all elements, with a separator between them, a comma by default. -/
def join (object : ObjectHandle) (separator : Option String) : Program β σ String := do
  let length ← lengthOf object
  let texts ← elementTexts object length.toNat 0 []
  return (separator.getD ",").intercalate texts.reverse

end ObjectModel.ArrayLike
