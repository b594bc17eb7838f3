import ObjectModel.Proofs.Define

/-!
# One object

The own properties of an object after each of its operations, and the integrity levels as
statements about all own properties.
-/

namespace ObjectModel

namespace PropertyDescriptor

theorem sealed_of_fixed {p : PropertyDescriptor} (fixed : p.isConfigurable = false) :
    p.sealed = p := by
  cases p <;> cases fixed <;> rfl

section Literal

variable {d : DescriptorFields} {kind : DescriptorKind}

theorem isConfigurable_toNewDescriptor (configurable : d.configurable = some true) :
    (d.toNewDescriptor kind).isConfigurable = true := by
  cases kind <;> simp [DescriptorFields.toNewDescriptor, isConfigurable, configurable]

theorem isConfigurable_merge {current : PropertyDescriptor}
    (configurable : d.configurable = some true) :
    (current.merge d kind).isConfigurable = true := by
  cases current <;> cases kind <;> simp [merge, isConfigurable, configurable]

end Literal

end PropertyDescriptor

namespace OrdinaryObject

/-! ## Own properties -/

theorem hasOwn_iff (o : OrdinaryObject) (key : PropertyKey) :
    o.hasOwn key = true ↔ ∃ p, o.getOwn? key = some p :=
  Option.isSome_iff_exists

theorem hasOwn_eq_false_iff (o : OrdinaryObject) (key : PropertyKey) :
    o.hasOwn key = false ↔ o.getOwn? key = none :=
  Option.isSome_eq_false_iff.trans Option.isNone_iff_eq_none

theorem getOwn?_setOwn (o : OrdinaryObject) (key other : PropertyKey) (p : PropertyDescriptor) :
    (o.setOwn key p).getOwn? other = if key = other then some p else o.getOwn? other :=
  OrderedMap.get?_insert o.properties key other p

theorem keys_setOwn_of_getOwn? {o : OrdinaryObject} {key : PropertyKey} {p : PropertyDescriptor}
    (owned : o.getOwn? key = some p) (p' : PropertyDescriptor) :
    (o.setOwn key p').properties.keys = o.properties.keys :=
  OrderedMap.keys_insert_of_get? owned p'

theorem getOwn?_sealed (o : OrdinaryObject) (key : PropertyKey) :
    o.sealed.getOwn? key = (o.getOwn? key).map .sealed :=
  OrderedMap.get?_mapValues o.properties _ key

theorem getOwn?_frozen (o : OrdinaryObject) (key : PropertyKey) :
    o.frozen.getOwn? key = (o.getOwn? key).map .frozen :=
  OrderedMap.get?_mapValues o.properties _ key

/-- An accepted definition changes the properties alone, as it changes a table. -/
theorem define_inv {o o' : OrdinaryObject} {key : PropertyKey} {d : DescriptorFields}
    {outcome : DefineOutcome} (accepted : o.define key d = .ok (outcome, o')) :
    ∃ kind properties, d.classify = .ok kind ∧ o' = { o with properties } ∧
      PropertyTable.Defined o.properties o.extensible key d kind outcome properties := by
  simp only [define, bind, Except.bind] at accepted
  split at accepted
  · cases accepted
  · next result defined =>
    obtain ⟨outcome', properties⟩ := result
    cases accepted
    obtain ⟨kind, shape, changed⟩ := PropertyTable.define_inv defined
    exact ⟨kind, properties, shape, rfl, changed⟩

/-! ## Open objects -/

/-- Properties may be added, and those that are there may all change. -/
structure IsOpen (o : OrdinaryObject) : Prop where
  extensible : o.extensible = true
  configurable : ∀ key p, o.getOwn? key = some p → p.isConfigurable = true

theorem isOpen_tagged (prototype : Option ObjectHandle) (classTag : String) :
    (tagged prototype classTag).IsOpen where
  extensible := rfl
  configurable _ _ owned := nomatch owned

section Define

variable {o o' : OrdinaryObject} {key : PropertyKey} {d : DescriptorFields}

/-- An open object accepts every literal that has a kind. -/
theorem IsOpen.define_accepted {kind : DescriptorKind} (isOpen : o.IsOpen)
    (shape : d.classify = .ok kind) (key : PropertyKey) :
    ∃ outcome o', o.define key d = .ok (outcome, o') := by
  suffices accepted : ∃ outcome properties,
      o.properties.define o.extensible key d = .ok (outcome, properties) by
    obtain ⟨outcome, properties, accepted⟩ := accepted
    exact ⟨outcome, { o with properties }, by rw [define, accepted]; rfl⟩
  rw [isOpen.extensible]
  cases found : o.properties.get? key with
  | none => exact ⟨_, _, by rw [PropertyTable.define_absent shape found, if_pos rfl]⟩
  | some current =>
    have free : current.isConfigurable = true := isOpen.configurable key current found
    rw [PropertyTable.define_admitted shape found (PropertyDescriptor.verdict_of_free free)]
    split <;> exact ⟨_, _, rfl⟩

theorem IsOpen.setOwn {p : PropertyDescriptor} (isOpen : o.IsOpen)
    (configurable : p.isConfigurable = true) : (o.setOwn key p).IsOpen where
  extensible := isOpen.extensible
  configurable other q owned := by
    rw [getOwn?_setOwn] at owned
    split at owned
    · cases owned
      exact configurable
    · exact isOpen.configurable other q owned

theorem IsOpen.define {outcome : DefineOutcome} (isOpen : o.IsOpen)
    (configurable : d.configurable = some true)
    (accepted : o.define key d = .ok (outcome, o')) : o'.IsOpen := by
  obtain ⟨kind, properties, shape, rfl, changed⟩ := define_inv accepted
  cases changed with
  | unchanged => exact isOpen
  | created => exact isOpen.setOwn (PropertyDescriptor.isConfigurable_toNewDescriptor configurable)
  | updated => exact isOpen.setOwn (PropertyDescriptor.isConfigurable_merge configurable)

end Define

/-! ## Integrity levels -/

theorem isSealed_iff (o : OrdinaryObject) :
    o.isSealed = true ↔ o.extensible = false ∧
      ∀ key p, o.getOwn? key = some p → p.isConfigurable = false := by
  rw [isSealed, Bool.and_eq_true, Bool.not_eq_true', OrderedMap.all_values_iff]
  simp only [Bool.not_eq_true']
  rfl

theorem isFrozen_iff (o : OrdinaryObject) :
    o.isFrozen = true ↔ o.extensible = false ∧
      ∀ key p, o.getOwn? key = some p → p.isConfigurable = false ∧ p.isWritable = false := by
  rw [isFrozen, Bool.and_eq_true, Bool.not_eq_true', OrderedMap.all_values_iff]
  simp only [Bool.and_eq_true, Bool.not_eq_true']
  rfl

end OrdinaryObject

end ObjectModel
