import ObjectModel.PropertyTable

/-!
# Defining a property

`PropertyTable.define` reconciles a descriptor literal with the property that is already there: it
rejects the definition or stores the merged property, and says which of three things it did.
Nothing is stored unless the whole definition is accepted.  `PropertyTable.checkDefine` is the
verdict alone.
-/

namespace ObjectModel

/-- What an accepted definition did to the table. -/
inductive DefineOutcome where
  /-- A new key was appended. -/
  | created
  /-- The property under the key changed in place. -/
  | updated
  /-- The merged property is the one already there. -/
  | unchanged
deriving DecidableEq, Inhabited

/-- The name of an outcome, as it is logged. -/
def DefineOutcome.name : DefineOutcome → String
  | created => "created"
  | updated => "updated"
  | unchanged => "unchanged"

namespace PropertyDescriptor

/-- Does the literal leave `enumerable` as it is and `configurable` off? -/
def keepsFlags (current : PropertyDescriptor) (d : DescriptorFields) : Bool :=
  d.configurable != some true && d.enumerable.all (· == current.isEnumerable)

/-- May a literal of the given kind change this non-configurable property?  Its attributes are
fixed, except that a writable value may change and `writable` may be turned off. -/
def checkFixed (current : PropertyDescriptor) (d : DescriptorFields) (kind : DescriptorKind)
    (key : PropertyKey) : Except DefineError Unit :=
  if !current.keepsFlags d then .error (.nonconfigurableRedefined key)
  else match current, kind with
    | _, .generic => .ok ()
    | .data .., .accessor => .error (.nonconfigurableRedefined key)
    | .accessor .., .data => .error (.nonconfigurableRedefined key)
    | .data value writable _ _, .data =>
      if writable || (d.writable != some true && d.value.all (·.sameValue value)) then .ok ()
      else .error (.nonwritableModified key)
    | .accessor get set _ _, .accessor =>
      if d.get.all (· == get) && d.set.all (· == set) then .ok ()
      else .error (.nonconfigurableRedefined key)

/-- Lays the fields of a literal over a property.  When the kind changes, the fields of the new
kind start from their defaults; `enumerable` and `configurable` always carry over. -/
def merge (current : PropertyDescriptor) (d : DescriptorFields) (kind : DescriptorKind) :
    PropertyDescriptor :=
  let enumerable := d.enumerable.getD current.isEnumerable
  let configurable := d.configurable.getD current.isConfigurable
  match current, kind with
  | .data _ _ _ _, .accessor => .accessor d.get.join d.set.join enumerable configurable
  | .data value writable _ _, _ =>
    .data (d.value.getD value) (d.writable.getD writable) enumerable configurable
  | .accessor _ _ _ _, .data =>
    .data (d.value.getD .undefined) (d.writable.getD false) enumerable configurable
  | .accessor get set _ _, _ =>
    .accessor (d.get.getD get) (d.set.getD set) enumerable configurable

end PropertyDescriptor

namespace PropertyTable

/-- Defines a property: the outcome and the table afterwards, or why the definition is rejected. -/
def define (t : PropertyTable) (extensible : Bool) (key : PropertyKey) (d : DescriptorFields) :
    Except DefineError (DefineOutcome × PropertyTable) := do
  let kind ← d.classify
  match t.get? key with
  | none =>
    if extensible then pure (.created, t.insert key (d.toNewDescriptor kind))
    else throw (.notExtensible key)
  | some current =>
    if !current.isConfigurable then current.checkFixed d kind key
    let merged := current.merge d kind
    if merged.sameAs current then pure (.unchanged, t)
    else pure (.updated, t.insert key merged)

/-- Would the definition be accepted? -/
def checkDefine (t : PropertyTable) (extensible : Bool) (key : PropertyKey)
    (d : DescriptorFields) : Except DefineError Unit := do
  let kind ← d.classify
  match t.get? key with
  | none => if extensible then pure () else throw (.notExtensible key)
  | some current => if current.isConfigurable then pure () else current.checkFixed d kind key

end PropertyTable

end ObjectModel
