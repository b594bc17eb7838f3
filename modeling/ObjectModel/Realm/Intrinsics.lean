import ObjectModel.Heap

/-!
# Intrinsic objects

The five objects that every realm starts with, and their properties.
-/

namespace ObjectModel

/-- The handles of the intrinsic objects. -/
structure Intrinsics where
  objectPrototype : ObjectHandle
  functionPrototype : ObjectHandle
  arrayPrototype : ObjectHandle
  global : ObjectHandle
  math : ObjectHandle
deriving DecidableEq, Inhabited

namespace Intrinsics

/-- The handles in a new realm. -/
def standard : Intrinsics where
  objectPrototype := ⟨0⟩
  functionPrototype := ⟨1⟩
  arrayPrototype := ⟨2⟩
  math := ⟨3⟩
  global := ⟨4⟩

/-- The value properties of `Math`, each the double nearest to the constant. -/
def mathConstants : List (String × Double) :=
  [("E", ⟨0x4005BF0A8B145769⟩), ("LN10", ⟨0x40026BB1BBB55516⟩), ("LN2", ⟨0x3FE62E42FEFA39EF⟩),
    ("LOG2E", ⟨0x3FF71547652B82FE⟩), ("LOG10E", ⟨0x3FDBCB7B1526E50E⟩),
    ("PI", ⟨0x400921FB54442D18⟩), ("SQRT1_2", ⟨0x3FE6A09E667F3BCD⟩),
    ("SQRT2", ⟨0x3FF6A09E667F3BCD⟩)]

/-- The value properties of the global object. -/
def globalConstants : List (String × Value) :=
  [("NaN", .number .nan), ("Infinity", .number (.infinity false)), ("undefined", .undefined)]

/-- An object with the given properties, stored as they are. -/
def withProperties (o : OrdinaryObject) (properties : List (PropertyKey × PropertyDescriptor)) :
    OrdinaryObject :=
  properties.foldl (fun o e => o.setOwn e.1 e.2) o

/-- The intrinsic objects in the order of their handles. -/
def objects : Array OrdinaryObject :=
  let inherits (classTag : String) := OrdinaryObject.tagged (some standard.objectPrototype) classTag
  #[.tagged none "Object",
    inherits "Function",
    withProperties (inherits "Array")
      [(⟨"length"⟩, .data (.number (.ofNat 0)) true false false)],
    withProperties (inherits "Math")
      (mathConstants.map fun (name, x) => (⟨name⟩, .constant (.number x))),
    withProperties (inherits "global")
      (globalConstants.map (fun (name, v) => (⟨name⟩, .constant v)) ++
        [(⟨"Math"⟩, .builtin (.object standard.math))])]

/-- The heap of a new realm. -/
def heap : Heap := ⟨objects, by simp [objects]⟩

end Intrinsics

end ObjectModel
