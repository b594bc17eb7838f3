import ObjectModel.OrderedMap
import ObjectModel.Descriptor

/-!
# Property tables

The own properties of an object, in insertion order.  Keys are listed to scripts in another order,
`keysInOrder`: the canonical array indices ascending, then all other keys as they were inserted.
-/

namespace ObjectModel

/-- The own properties of an object. -/
abbrev PropertyTable := OrderedMap PropertyKey PropertyDescriptor

namespace PropertyTable

/-- The array indices among some keys, each with its numeric value, in ascending order. -/
def sortedIndices (keys : List PropertyKey) : List (UInt32 × PropertyKey) :=
  (keys.filterMap fun key => key.arrayIndex?.map (·, key)).mergeSort fun a b => a.1 ≤ b.1

/-- The array indices in ascending order, then the other keys in insertion order. -/
def keysInOrder (t : PropertyTable) : List PropertyKey :=
  (sortedIndices t.keys).map Prod.snd ++ t.keys.filter fun key => !key.isArrayIndex

/-- The keys in order whose properties are enumerable. -/
def enumerableKeys (t : PropertyTable) : List PropertyKey :=
  t.keysInOrder.filter fun key => (t.get? key).any PropertyDescriptor.isEnumerable

end PropertyTable

end ObjectModel
