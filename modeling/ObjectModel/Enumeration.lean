import ObjectModel.Chain

/-!
# Enumerating keys

The keys that a `for … in` loop visits: the enumerable keys of an object and then of its
prototypes.  A key of a nearer object, enumerable or not, hides the same key further up.  The list
is complete before it is used, so that code run per key cannot change it.
-/

namespace ObjectModel

/-- The keys of an enumeration, and why the walk ended early if it did. -/
structure Enumeration where
  keys : List PropertyKey
  truncation : Option WalkTruncation
deriving DecidableEq, Inhabited

namespace Enumeration

/-- The keys of some objects, of which `seen` are hidden: each enumerable key that no earlier key
equals. -/
def keysOf (seen : List PropertyKey) : List OrdinaryObject → List PropertyKey
  | [] => []
  | o :: rest =>
    let own := o.ownKeys
    (o.ownEnumerableKeys.filter fun key => key ∉ seen) ++ keysOf (own ++ seen) rest

end Enumeration

namespace Heap

/-- The enumerable keys along the chain of an object. -/
def enumerateKeys (heap : Heap) (start : ObjectHandle) (maxHops : Nat) :
    Except ObjectError Enumeration := do
  let w ← heap.walk start maxHops
  return ⟨Enumeration.keysOf [] (w.visited.map Prod.snd), w.truncation⟩

def ownKeys (heap : Heap) (h : ObjectHandle) : Except ObjectError (List PropertyKey) := do
  return (← heap.get h).ownKeys

def ownEnumerableKeys (heap : Heap) (h : ObjectHandle) :
    Except ObjectError (List PropertyKey) := do
  return (← heap.get h).ownEnumerableKeys

end Heap

end ObjectModel
