import ObjectModel.Heap

/-!
# Prototype chains

A walk visits an object, then its prototype, then the prototype of that, each at most once.  It is
bounded by a number of hops, and stops early at an object that it has already visited; both count as
the end of the chain, with the reason kept as a `WalkTruncation`.  A dangling link ends the chain
like a missing one.

Looking a property up and walking the whole chain are the same walk with different stopping rules.
-/

namespace ObjectModel

/-- Why a walk ended before the end of the chain. -/
inductive WalkTruncation where
  | cycleDetected
  | depthExceeded
deriving DecidableEq, Inhabited

/-- The name of a truncation, as it is logged. -/
def WalkTruncation.name : WalkTruncation → String
  | cycleDetected => "cycle_detected"
  | depthExceeded => "depth_exceeded"

/-- The objects that a walk visited, in order, and why it ended early if it did. -/
structure Walk where
  visited : List (ObjectHandle × OrdinaryObject)
  truncation : Option WalkTruncation
deriving DecidableEq, Inhabited

namespace Walk

def handles (w : Walk) : List ObjectHandle := w.visited.map Prod.fst

end Walk

/-- The nearest owner of a key with its property, and the truncation known when the search ended. -/
structure PropertyLookup where
  found : Option (ObjectHandle × PropertyDescriptor)
  truncation : Option WalkTruncation
deriving DecidableEq, Inhabited

namespace Heap

/-- Walks on from a link.  `seen` holds the objects visited so far, `left` is the number of objects
that may still be visited, and the first object that satisfies `stop` is the last one. -/
def walkFrom (heap : Heap) (stop : OrdinaryObject → Bool) :
    Nat → List ObjectHandle → Option ObjectHandle → Walk
  | _, _, none => ⟨[], none⟩
  | left, seen, some h =>
    if h ∈ seen then ⟨[], some .cycleDetected⟩
    else match left with
      | 0 => ⟨[], some .depthExceeded⟩
      | left + 1 =>
        match heap.get? h with
        | none => ⟨[], none⟩
        | some o =>
          if stop o then ⟨[(h, o)], none⟩
          else
            let rest := walkFrom heap stop left (h :: seen) o.prototype
            ⟨(h, o) :: rest.visited, rest.truncation⟩

/-- Walks from an object until one satisfies `stop`, along at most `maxHops` links. -/
def walkUntil (heap : Heap) (stop : OrdinaryObject → Bool) (start : ObjectHandle)
    (maxHops : Nat) : Except ObjectError Walk := do
  let _ ← heap.get start
  return heap.walkFrom stop (maxHops + 1) [] (some start)

/-- Walks the whole chain of an object. -/
def walk (heap : Heap) (start : ObjectHandle) (maxHops : Nat) : Except ObjectError Walk :=
  heap.walkUntil (fun _ => false) start maxHops

/-- Finds the nearest owner of a key in the chain of an object. -/
def findProperty (heap : Heap) (start : ObjectHandle) (key : PropertyKey) (maxHops : Nat) :
    Except ObjectError PropertyLookup := do
  let w ← heap.walkUntil (·.hasOwn key) start maxHops
  return ⟨w.visited.findSome? fun (h, o) => (o.getOwn? key).map (h, ·), w.truncation⟩

end Heap

end ObjectModel
