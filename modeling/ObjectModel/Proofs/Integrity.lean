import ObjectModel.Proofs.Copying
import ObjectModel.Proofs.Object

/-!
# Freezing and sealing by definitions

`OrdinaryObject.frozen` and `OrdinaryObject.sealed` change all properties in place and ask nobody.
`frozen_and_sealed_by_definitions` says that they come to what a caller could have done: close the
object to new keys, then define key after key with a literal that turns attributes off.

One property is `define_freezeFields` or `define_sealFields`: each of the two literals is accepted,
locked as the property may be, and stores what the change in place would.  `defineAll_inPlace` is
the loop, for any change that definitions can make.
-/

namespace ObjectModel

/-! ## One property -/

namespace PropertyDescriptor

/-- The literal that freezes a property. -/
def freezeFields : PropertyDescriptor → DescriptorFields
  | data .. => { writable := some false, configurable := some false }
  | accessor .. => { configurable := some false }

/-- The literal that seals a property. -/
def sealFields (_ : PropertyDescriptor) : DescriptorFields := { configurable := some false }

/-- The two differ in `writable` and `configurable` at most. -/
structure SameContents (p q : PropertyDescriptor) : Prop where
  kind : p.kind = q.kind
  value : p.value? = q.value?
  getter : p.getter? = q.getter?
  setter : p.setter? = q.setter?
  enumerable : p.isEnumerable = q.isEnumerable

theorem sameContents_frozen (p : PropertyDescriptor) : p.SameContents p.frozen := by
  cases p <;> exact ⟨rfl, rfl, rfl, rfl, rfl⟩

theorem sameContents_sealed (p : PropertyDescriptor) : p.SameContents p.sealed := by
  cases p <;> exact ⟨rfl, rfl, rfl, rfl, rfl⟩

@[simp] theorem frozen_frozen (p : PropertyDescriptor) : p.frozen.frozen = p.frozen := by
  cases p <;> rfl

@[simp] theorem sealed_sealed (p : PropertyDescriptor) : p.sealed.sealed = p.sealed := by
  cases p <;> rfl

@[simp] theorem frozen_sealed (p : PropertyDescriptor) : p.sealed.frozen = p.frozen := by
  cases p <;> rfl

@[simp] theorem sealed_frozen (p : PropertyDescriptor) : p.frozen.sealed = p.frozen := by
  cases p <;> rfl

/-- Only flags are turned off, so a property that looks the same is the very same. -/
theorem frozen_of_sameAs {p : PropertyDescriptor} (same : p.frozen.sameAs p = true) :
    p.frozen = p := by
  cases p with
  | data value writable enumerable configurable =>
    simp only [frozen, sameAs, Bool.and_eq_true, beq_iff_eq] at same
    obtain ⟨⟨⟨-, rfl⟩, -⟩, rfl⟩ := same
    rfl
  | accessor get set enumerable configurable =>
    simp only [frozen, sameAs, Bool.and_eq_true, beq_iff_eq] at same
    obtain ⟨-, rfl⟩ := same
    rfl

theorem sealed_of_sameAs {p : PropertyDescriptor} (same : p.sealed.sameAs p = true) :
    p.sealed = p := by
  apply sealed_of_fixed
  cases p <;> simp_all [sealed, sameAs, isConfigurable]

end PropertyDescriptor

namespace PropertyTable

variable {t : PropertyTable} {key : PropertyKey} {p q : PropertyDescriptor}

/-- A definition that merges to a property stores it, also where nothing is left to store. -/
theorem define_of_merge {d : DescriptorFields} {kind : DescriptorKind}
    (shape : d.classify = .ok kind) (present : t.get? key = some p)
    (admitted : p.verdict d kind key = .ok ()) (merged : p.merge d kind = q)
    (exact_ : q.sameAs p = true → q = p) (extensible : Bool) :
    ∃ outcome, t.define extensible key d = .ok (outcome, t.insert key q) := by
  have defined := define_admitted shape present admitted extensible
  rw [merged] at defined
  by_cases same : q.sameAs p = true
  · rw [if_pos same] at defined
    have kept : t.insert key q = t := by
      apply OrderedMap.ext_view (OrderedMap.keys_insert_of_get? present q)
      intro other
      rw [OrderedMap.get?_insert]
      split
      · next this => rw [← this, present, exact_ same]
      · rfl
    rw [kept]
    exact ⟨_, defined⟩
  · rw [if_neg same] at defined
    exact ⟨_, defined⟩

theorem define_freezeFields (present : t.get? key = some p) (extensible : Bool) :
    ∃ outcome, t.define extensible key p.freezeFields = .ok (outcome, t.insert key p.frozen) := by
  -- a property that may not change any more still admits what only turns flags off
  obtain ⟨kind, shape, admitted, merged⟩ : ∃ kind, p.freezeFields.classify = .ok kind ∧
      p.verdict p.freezeFields kind key = .ok () ∧ p.merge p.freezeFields kind = p.frozen := by
    cases p with
    | data value writable enumerable configurable =>
      refine ⟨.data, rfl, ?_, rfl⟩
      cases configurable <;> cases writable <;> rfl
    | accessor get set enumerable configurable =>
      refine ⟨.generic, rfl, ?_, rfl⟩
      cases configurable <;> rfl
  exact define_of_merge shape present admitted merged PropertyDescriptor.frozen_of_sameAs extensible

theorem define_sealFields (present : t.get? key = some p) (extensible : Bool) :
    ∃ outcome, t.define extensible key p.sealFields = .ok (outcome, t.insert key p.sealed) := by
  have admitted : p.verdict p.sealFields .generic key = .ok () := by
    cases p with
    | data value writable enumerable configurable => cases configurable <;> rfl
    | accessor get set enumerable configurable => cases configurable <;> rfl
  have merged : p.merge p.sealFields .generic = p.sealed := by cases p <;> rfl
  exact define_of_merge rfl present admitted merged PropertyDescriptor.sealed_of_sameAs extensible

/-! ## All properties -/

section InPlace

variable {fields : PropertyDescriptor → DescriptorFields}
  {change : PropertyDescriptor → PropertyDescriptor} {extensible : Bool}
  (each : ∀ {t : PropertyTable} {key p}, t.get? key = some p →
    ∃ outcome, t.define extensible key (fields p) = .ok (outcome, t.insert key (change p)))

include each

/-- The loop in the middle: the entries in front are changed, those behind are as they were. -/
theorem defineAll_entries {front back : List (PropertyKey × PropertyDescriptor)}
    (entries : t.entries = front ++ back) :
    ∃ outcomes t', t.defineAll extensible (back.map fun e => (e.1, fields e.2)) =
      .ok (outcomes, t') ∧ t'.entries = front ++ back.map fun e => (e.1, change e.2) := by
  induction back generalizing t front with
  | nil => exact ⟨[], t, rfl, entries⟩
  | cons e rest ih =>
    obtain ⟨key, p⟩ := e
    have present : t.get? key = some p := by
      rw [OrderedMap.get?_eq_some_iff_mem, entries]
      simp
    have notBefore : key ∉ front.map Prod.fst := by
      have nodup := t.nodup
      rw [entries, List.map_append, List.nodup_append] at nodup
      exact fun before => nodup.2.2 _ before _ List.mem_cons_self rfl
    obtain ⟨outcome, defined⟩ := each present
    have changed : (t.insert key (change p)).entries = front ++ [(key, change p)] ++ rest := by
      show OrderedMap.insertEntry key (change p) t.entries = _
      rw [entries, OrderedMap.insertEntry_of_present notBefore]
      simp
    obtain ⟨outcomes, t', definedRest, entries'⟩ := ih changed
    refine ⟨_, t', defineAll_cons defined definedRest, ?_⟩
    simpa using entries'

theorem defineAll_inPlace (t : PropertyTable) :
    ∃ outcomes, t.defineAll extensible (t.entries.map fun e => (e.1, fields e.2)) =
      .ok (outcomes, t.mapValues change) := by
  obtain ⟨outcomes, t', defined, entries⟩ := defineAll_entries each (List.nil_append t.entries).symm
  have same : t' = t.mapValues change := OrderedMap.ext entries
  exact ⟨outcomes, same ▸ defined⟩

end InPlace

end PropertyTable

/-! ## One object -/

namespace OrdinaryObject

/-- Defines one own property after the other: all outcomes and the object at the end, or the first
rejection. -/
def defineAll (o : OrdinaryObject) :
    List (PropertyKey × DescriptorFields) → Except DefineError (List DefineOutcome × OrdinaryObject)
  | [] => .ok ([], o)
  | (key, d) :: rest => do
    let (outcome, o) ← o.define key d
    let (outcomes, o) ← defineAll o rest
    return (outcome :: outcomes, o)

/-- On an object, definitions change the table of its properties and nothing else. -/
theorem defineAll_eq (o : OrdinaryObject) (definitions : List (PropertyKey × DescriptorFields)) :
    o.defineAll definitions = (o.properties.defineAll o.extensible definitions).map
      fun (outcomes, properties) => (outcomes, { o with properties }) := by
  induction definitions generalizing o with
  | nil => rfl
  | cons definition rest ih =>
    obtain ⟨key, d⟩ := definition
    simp only [defineAll, PropertyTable.defineAll, define, bind, Except.bind]
    cases o.properties.define o.extensible key d with
    | error e => rfl
    | ok result =>
      obtain ⟨outcome, properties⟩ := result
      simp only [pure, Except.pure, ih]
      cases properties.defineAll o.extensible rest <;> rfl

/-- Every key in insertion order, with the literal that locks its property. -/
def definitionsOf (o : OrdinaryObject) (fields : PropertyDescriptor → DescriptorFields) :
    List (PropertyKey × DescriptorFields) :=
  o.properties.entries.map fun e => (e.1, fields e.2)

theorem defineAll_definitionsOf {fields : PropertyDescriptor → DescriptorFields}
    {change : PropertyDescriptor → PropertyDescriptor} (o : OrdinaryObject)
    (each : ∀ {t : PropertyTable} {key p}, t.get? key = some p →
      ∃ outcome, t.define o.extensible key (fields p) = .ok (outcome, t.insert key (change p))) :
    ∃ outcomes, o.defineAll (o.definitionsOf fields) =
      .ok (outcomes, { o with properties := o.properties.mapValues change }) := by
  obtain ⟨outcomes, defined⟩ := PropertyTable.defineAll_inPlace each o.properties
  exact ⟨outcomes, by rw [defineAll_eq, definitionsOf, defined]; rfl⟩

theorem isFrozen_frozen (o : OrdinaryObject) : o.frozen.isFrozen = true := by
  rw [isFrozen_iff]
  refine ⟨rfl, fun key p owned => ?_⟩
  rw [getOwn?_frozen] at owned
  obtain ⟨q, -, rfl⟩ := Option.map_eq_some_iff.1 owned
  cases q <;> exact ⟨rfl, rfl⟩

theorem isSealed_sealed (o : OrdinaryObject) : o.sealed.isSealed = true := by
  rw [isSealed_iff]
  refine ⟨rfl, fun key p owned => ?_⟩
  rw [getOwn?_sealed] at owned
  obtain ⟨q, -, rfl⟩ := Option.map_eq_some_iff.1 owned
  cases q <;> rfl

theorem isSealed_of_isFrozen {o : OrdinaryObject} (level : o.isFrozen = true) :
    o.isSealed = true := by
  obtain ⟨closed, fixed⟩ := o.isFrozen_iff.1 level
  exact o.isSealed_iff.2 ⟨closed, fun key p owned => (fixed key p owned).1⟩

/-- Freezing and sealing are what definitions of every key, in insertion order, come to on the
object without room for new keys; none of them is rejected, whatever was locked before.  So the
object is on its level afterwards, a second time changes nothing, freezing covers sealing, and the
keys and contents of all properties stay. -/
theorem frozen_and_sealed_by_definitions (o : OrdinaryObject) :
    (∃ outcomes, o.preventExtensions.defineAll (o.definitionsOf PropertyDescriptor.freezeFields) =
      .ok (outcomes, o.frozen)) ∧
    (∃ outcomes, o.preventExtensions.defineAll (o.definitionsOf PropertyDescriptor.sealFields) =
      .ok (outcomes, o.sealed)) ∧
    (o.frozen.isFrozen = true ∧ o.frozen.isSealed = true ∧ o.sealed.isSealed = true) ∧
    (o.frozen.frozen = o.frozen ∧ o.sealed.sealed = o.sealed ∧ o.sealed.frozen = o.frozen ∧
      o.frozen.sealed = o.frozen) ∧
    (o.frozen.properties.keys = o.properties.keys ∧ o.sealed.properties.keys = o.properties.keys) ∧
    ∀ key, Option.Rel PropertyDescriptor.SameContents (o.getOwn? key) (o.frozen.getOwn? key) ∧
      Option.Rel PropertyDescriptor.SameContents (o.getOwn? key) (o.sealed.getOwn? key) := by
  refine ⟨?_, ?_, ?_, ?_, ?_, fun key => ?_⟩
  · exact o.preventExtensions.defineAll_definitionsOf
      fun present => PropertyTable.define_freezeFields present false
  · exact o.preventExtensions.defineAll_definitionsOf
      fun present => PropertyTable.define_sealFields present false
  · exact ⟨o.isFrozen_frozen, isSealed_of_isFrozen o.isFrozen_frozen, o.isSealed_sealed⟩
  · simp [frozen, sealed, OrderedMap.mapValues_mapValues]
  · exact ⟨OrderedMap.keys_mapValues .., OrderedMap.keys_mapValues ..⟩
  · rw [getOwn?_frozen, getOwn?_sealed]
    cases o.getOwn? key with
    | none => exact ⟨.none, .none⟩
    | some p => exact ⟨.some p.sameContents_frozen, .some p.sameContents_sealed⟩

end OrdinaryObject

end ObjectModel
