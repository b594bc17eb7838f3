import ObjectModel.Object

/-!
# The heap

All objects of a realm, addressed by handles.  Objects are never freed and links are plain handles,
so a prototype graph may have cycles and a link may dangle.  A handle has 32 bits: a heap never
holds more than `2 ^ 32` objects, and `alloc?` fails when it is full, so that distinct objects
always have distinct handles.
-/

namespace ObjectModel

/-- The objects of a realm; the handle `i` addresses the `i`-th. -/
structure Heap where
  objects : Array OrdinaryObject
  size_le : objects.size ≤ 2 ^ 32

namespace Heap

def empty : Heap := ⟨#[], by simp⟩

instance : Inhabited Heap := ⟨empty⟩

def size (heap : Heap) : Nat := heap.objects.size

def isEmpty (heap : Heap) : Bool := heap.objects.isEmpty

def get? (heap : Heap) (h : ObjectHandle) : Option OrdinaryObject :=
  heap.objects[h.index.toNat]?

def contains (heap : Heap) (h : ObjectHandle) : Bool := decide (h.index.toNat < heap.size)

/-- The object under a handle, or the error that there is none. -/
def get (heap : Heap) (h : ObjectHandle) : Except ObjectError OrdinaryObject :=
  match heap.get? h with
  | some o => .ok o
  | none => .error (.objectNotFound h)

/-- Adds an object; `none` if no handle is left.  An engine that cuts the number of objects down to
32 bits would hand out the first handle again at this point, for the object that comes after
`2 ^ 32` others.  Runs that come so far are outside of what is modelled: they end here. -/
def alloc? (heap : Heap) (o : OrdinaryObject) : Option (ObjectHandle × Heap) :=
  if h : heap.objects.size < 2 ^ 32 then
    some (⟨UInt32.ofNat heap.objects.size⟩,
      ⟨heap.objects.push o, by rw [Array.size_push]; omega⟩)
  else none

/-- Changes the object under a handle, if there is one. -/
def modify (heap : Heap) (h : ObjectHandle) (f : OrdinaryObject → OrdinaryObject) : Heap :=
  ⟨heap.objects.modify h.index.toNat f, by rw [Array.size_modify]; exact heap.size_le⟩

/-- A heap of the given objects; `none` if there are more than handles. -/
def ofList? (objects : List OrdinaryObject) : Option Heap :=
  if h : objects.length ≤ 2 ^ 32 then some ⟨objects.toArray, by simpa using h⟩ else none

theorem get?_eq_some_of_get {heap : Heap} {h : ObjectHandle} {o : OrdinaryObject}
    (ho : heap.get h = .ok o) : heap.get? h = some o := by
  unfold get at ho
  split at ho
  · next e => rw [e, Except.ok.inj ho]
  · exact nomatch ho

theorem contains_iff (heap : Heap) (h : ObjectHandle) :
    heap.contains h = true ↔ ∃ o, heap.get? h = some o := by
  simp only [contains, get?, size, Array.getElem?_eq_some_iff]
  exact decide_eq_true_iff.trans ⟨fun h => ⟨_, h, rfl⟩, fun ⟨_, h, _⟩ => h⟩

theorem get?_modify (heap : Heap) (h k : ObjectHandle) (f : OrdinaryObject → OrdinaryObject) :
    (heap.modify h f).get? k = if h = k then (heap.get? k).map f else heap.get? k := by
  have : h.index.toNat = k.index.toNat ↔ h = k := by
    obtain ⟨h⟩ := h; obtain ⟨k⟩ := k
    simp [UInt32.toNat_inj]
  simp only [modify, get?, Array.getElem?_modify, this]

/-- The prototype link of an object. -/
def getPrototype (heap : Heap) (h : ObjectHandle) : Except ObjectError (Option ObjectHandle) := do
  return (← heap.get h).prototype

/-- Relinks a prototype, which has to exist.  Cycles are accepted.  A non-extensible object keeps
its prototype, and the answer is whether that was the one asked for. -/
def setPrototype (heap : Heap) (h : ObjectHandle) (prototype : Option ObjectHandle) :
    Except ObjectError (Bool × Heap) := do
  if let some p := prototype then
    let _ ← heap.get p
  let o ← heap.get h
  if o.extensible then return (true, heap.modify h fun o => { o with prototype })
  else return (o.prototype == prototype, heap)

end Heap

end ObjectModel
