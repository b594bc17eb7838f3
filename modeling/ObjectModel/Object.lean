import ObjectModel.Define

/-!
# Ordinary objects

An object with its internal slots, and the operations that concern one object alone: defining and
deleting own properties and the three integrity levels (non-extensible, sealed, frozen).
-/

namespace ObjectModel

/-- An object: a prototype link, own properties, and what it is to the realm. -/
structure OrdinaryObject where
  /-- The next object of the prototype chain. -/
  prototype : Option ObjectHandle := none
  /-- May properties be added? -/
  extensible : Bool := true
  properties : PropertyTable := .empty
  /-- What kind of object this is, such as `Array`. -/
  classTag : Option String := none
  /-- Is this a host function? -/
  callable : Bool := false
deriving DecidableEq, Inhabited

namespace OrdinaryObject

/-- An empty object of a class. -/
def tagged (prototype : Option ObjectHandle) (classTag : String) : OrdinaryObject :=
  { prototype, classTag := some classTag }

def getOwn? (o : OrdinaryObject) (key : PropertyKey) : Option PropertyDescriptor :=
  o.properties.get? key

def hasOwn (o : OrdinaryObject) (key : PropertyKey) : Bool := o.properties.contains key

/-- The object with a property stored as it is, without reconciliation. -/
def setOwn (o : OrdinaryObject) (key : PropertyKey) (p : PropertyDescriptor) : OrdinaryObject :=
  { o with properties := o.properties.insert key p }

/-- Defines an own property. -/
def define (o : OrdinaryObject) (key : PropertyKey) (d : DescriptorFields) :
    Except DefineError (DefineOutcome × OrdinaryObject) := do
  let (outcome, properties) ← o.properties.define o.extensible key d
  pure (outcome, { o with properties })

/-- Deletes an own property, unless it is non-configurable; deleting an absent one succeeds. -/
def delete (o : OrdinaryObject) (key : PropertyKey) : Bool × OrdinaryObject :=
  match o.getOwn? key with
  | none => (true, o)
  | some p =>
    if p.isConfigurable then (true, { o with properties := o.properties.erase key })
    else (false, o)

def ownKeys (o : OrdinaryObject) : List PropertyKey := o.properties.keysInOrder

def ownEnumerableKeys (o : OrdinaryObject) : List PropertyKey := o.properties.enumerableKeys

def preventExtensions (o : OrdinaryObject) : OrdinaryObject := { o with extensible := false }

/-- Makes the object non-extensible and every own property non-configurable. -/
def sealed (o : OrdinaryObject) : OrdinaryObject :=
  { o with extensible := false, properties := o.properties.mapValues .sealed }

/-- Makes the object non-extensible, every own property non-configurable and every data property
non-writable. -/
def frozen (o : OrdinaryObject) : OrdinaryObject :=
  { o with extensible := false, properties := o.properties.mapValues .frozen }

def isSealed (o : OrdinaryObject) : Bool :=
  !o.extensible && o.properties.values.all fun p => !p.isConfigurable

def isFrozen (o : OrdinaryObject) : Bool :=
  !o.extensible && o.properties.values.all fun p => !p.isConfigurable && !p.isWritable

end OrdinaryObject

end ObjectModel
