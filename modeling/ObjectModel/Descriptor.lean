import ObjectModel.Error

/-!
# Property descriptors

A `PropertyDescriptor` is what a property table stores: a data or an accessor property with every
attribute decided.  A `DescriptorFields` is the literal that a definition gives: any of its six
fields may be absent, and `get` and `set` may also be present as an explicit `undefined`, which is
`some none`.  `DescriptorFields.classify` finds the kind of a literal, or why it has none.
-/

namespace ObjectModel

/-- A stored property. -/
inductive PropertyDescriptor where
  | data (value : Value) (writable enumerable configurable : Bool)
  | accessor (get set : Option ObjectHandle) (enumerable configurable : Bool)
deriving DecidableEq, Inhabited

/-- The kind of a descriptor literal; a generic one has neither data nor accessor fields. -/
inductive DescriptorKind where
  | generic
  | data
  | accessor
deriving DecidableEq, Inhabited

namespace PropertyDescriptor

/-- The property that an assignment creates: writable, enumerable and configurable. -/
def openData (value : Value) : PropertyDescriptor := .data value true true true

/-- The property of a constant: neither writable nor enumerable nor configurable. -/
def constant (value : Value) : PropertyDescriptor := .data value false false false

/-- The property that an empty data literal creates. -/
def defaultData : PropertyDescriptor := constant .undefined

/-- The property that an empty accessor literal creates. -/
def defaultAccessor : PropertyDescriptor := .accessor none none false false

/-- A built-in property that scripts may replace: writable and configurable, not enumerable. -/
def builtin (value : Value) : PropertyDescriptor := .data value true false true

def isConfigurable : PropertyDescriptor → Bool
  | data _ _ _ configurable => configurable
  | accessor _ _ _ configurable => configurable

def isEnumerable : PropertyDescriptor → Bool
  | data _ _ enumerable _ => enumerable
  | accessor _ _ enumerable _ => enumerable

def isData : PropertyDescriptor → Bool
  | data .. => true
  | accessor .. => false

def isAccessor : PropertyDescriptor → Bool
  | data .. => false
  | accessor .. => true

def kind : PropertyDescriptor → DescriptorKind
  | data .. => .data
  | accessor .. => .accessor

def value? : PropertyDescriptor → Option Value
  | data value _ _ _ => some value
  | accessor .. => none

/-- Accessor properties are never writable. -/
def isWritable : PropertyDescriptor → Bool
  | data _ writable _ _ => writable
  | accessor .. => false

def getter? : PropertyDescriptor → Option ObjectHandle
  | data .. => none
  | accessor get _ _ _ => get

def setter? : PropertyDescriptor → Option ObjectHandle
  | data .. => none
  | accessor _ set _ _ => set

/-- The property made non-configurable. -/
def sealed : PropertyDescriptor → PropertyDescriptor
  | data value writable enumerable _ => .data value writable enumerable false
  | accessor get set enumerable _ => .accessor get set enumerable false

/-- The property made non-configurable and, if it holds data, non-writable. -/
def frozen : PropertyDescriptor → PropertyDescriptor
  | data value _ enumerable _ => .data value false enumerable false
  | accessor get set enumerable _ => .accessor get set enumerable false

/-- Equal attributes, with values compared by `Value.sameValue`. -/
def sameAs : PropertyDescriptor → PropertyDescriptor → Bool
  | data v w e c, data v' w' e' c' => v.sameValue v' && w == w' && e == e' && c == c'
  | accessor g s e c, accessor g' s' e' c' => g == g' && s == s' && e == e' && c == c'
  | _, _ => false

/-- Equal attributes, with values compared by `Value.strictEquals`. -/
def strictEquals : PropertyDescriptor → PropertyDescriptor → Bool
  | data v w e c, data v' w' e' c' => v.strictEquals v' && w == w' && e == e' && c == c'
  | accessor g s e c, accessor g' s' e' c' => g == g' && s == s' && e == e' && c == c'
  | _, _ => false

end PropertyDescriptor

/-- A descriptor literal.  An absent field is `none`; `some none` in `get` or `set` is an explicit
`undefined`. -/
structure DescriptorFields where
  value : Option Value := none
  writable : Option Bool := none
  get : Option (Option ObjectHandle) := none
  set : Option (Option ObjectHandle) := none
  enumerable : Option Bool := none
  configurable : Option Bool := none
deriving DecidableEq, Inhabited

namespace DescriptorFields

/-- The literal that specifies every attribute of a descriptor. -/
def ofDescriptor : PropertyDescriptor → DescriptorFields
  | .data value writable enumerable configurable =>
    { value := some value, writable := some writable, enumerable := some enumerable,
      configurable := some configurable }
  | .accessor get set enumerable configurable =>
    { get := some get, set := some set, enumerable := some enumerable,
      configurable := some configurable }

def hasDataFields (d : DescriptorFields) : Bool := d.value.isSome || d.writable.isSome

def hasAccessorFields (d : DescriptorFields) : Bool := d.get.isSome || d.set.isSome

/-- The kind of a literal.  Accessor fields go neither with a value nor with `writable`; a literal
with both faults is rejected for its value. -/
def classify (d : DescriptorFields) : Except DefineError DescriptorKind :=
  if d.hasAccessorFields then
    if d.value.isSome then .error .descriptorMismatch
    else if d.writable.isSome then .error .invalidWritableDescriptor
    else .ok .accessor
  else if d.hasDataFields then .ok .data
  else .ok .generic

/-- The functions that the literal names, the getter first. -/
def accessorFunctions (d : DescriptorFields) : List ObjectHandle :=
  d.get.join.toList ++ d.set.join.toList

/-- The property that a literal of the given kind creates; absent fields take their defaults, and
a generic literal creates a data property. -/
def toNewDescriptor (d : DescriptorFields) : DescriptorKind → PropertyDescriptor
  | .accessor =>
    .accessor d.get.join d.set.join (d.enumerable.getD false) (d.configurable.getD false)
  | _ =>
    .data (d.value.getD .undefined) (d.writable.getD false) (d.enumerable.getD false)
      (d.configurable.getD false)

/-- Every field that the literal specifies holds of the property, values by `Value.sameValue`. -/
def holdsOf (d : DescriptorFields) (p : PropertyDescriptor) : Bool :=
  let actual := ofDescriptor p
  let agrees {α : Type} [DecidableEq α] (wanted found : Option α) : Bool :=
    wanted.isNone || wanted == found
  let valueAgrees := match d.value, actual.value with
    | none, _ => true
    | some v, some w => v.sameValue w
    | some _, none => false
  valueAgrees && agrees d.writable actual.writable && agrees d.get actual.get &&
    agrees d.set actual.set && agrees d.enumerable actual.enumerable &&
    agrees d.configurable actual.configurable

end DescriptorFields

end ObjectModel
