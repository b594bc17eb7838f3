import ObjectModel.Proofs.Reachability

/-!
# Accessors call functions of their realm

Getters and setters enter an object by definitions alone, and a definition names functions of the
realm alone, which stay functions of the realm (`Reachable.accessorsCallable`).  Reading or writing
an accessor property of a reachable realm therefore never meets a handle that cannot be called.
-/

namespace ObjectModel

variable {β : Type}

/-! ## The functions that a property calls -/

namespace PropertyDescriptor

/-- Is the function the getter or the setter of the property? -/
def calls (p : PropertyDescriptor) (f : ObjectHandle) : Prop :=
  p.getter? = some f ∨ p.setter? = some f

theorem not_calls_of_isData {p : PropertyDescriptor} (data : p.isData = true) (f : ObjectHandle) :
    ¬p.calls f := by
  cases p with
  | data => rintro (getter | setter) <;> contradiction
  | accessor => cases data

theorem calls_sealed (p : PropertyDescriptor) (f : ObjectHandle) :
    p.sealed.calls f ↔ p.calls f := by
  cases p <;> rfl

theorem calls_frozen (p : PropertyDescriptor) (f : ObjectHandle) :
    p.frozen.calls f ↔ p.calls f := by
  cases p <;> rfl

variable {d : DescriptorFields} {kind : DescriptorKind} {f : ObjectHandle}

theorem mem_accessorFunctions (d : DescriptorFields) (f : ObjectHandle) :
    f ∈ d.accessorFunctions ↔ d.get = some (some f) ∨ d.set = some (some f) := by
  simp [DescriptorFields.accessorFunctions, Option.join_eq_some_iff]

theorem mem_of_calls_toNewDescriptor (calls : (d.toNewDescriptor kind).calls f) :
    f ∈ d.accessorFunctions := by
  rw [mem_accessorFunctions]
  cases kind with
  | generic | data => exact absurd calls (not_calls_of_isData rfl f)
  | accessor =>
    obtain getter | setter := calls
    · exact .inl (Option.join_eq_some_iff.1 getter)
    · exact .inr (Option.join_eq_some_iff.1 setter)

theorem calls_of_merge {current : PropertyDescriptor} (calls : (current.merge d kind).calls f) :
    current.calls f ∨ f ∈ d.accessorFunctions := by
  rw [mem_accessorFunctions]
  cases current with
  | data =>
    cases kind with
    | generic | data => exact absurd calls (not_calls_of_isData rfl f)
    | accessor =>
      -- the kind changes, so nothing of the old property is left
      obtain getter | setter := calls
      · exact .inr (.inl (Option.join_eq_some_iff.1 getter))
      · exact .inr (.inr (Option.join_eq_some_iff.1 setter))
  | accessor get set =>
    cases kind with
    | data => exact absurd calls (not_calls_of_isData rfl f)
    | generic | accessor =>
      obtain getter | setter := calls
      · obtain named | ⟨-, kept⟩ := Option.getD_eq_iff.1 getter
        · exact .inr (.inl named)
        · exact .inl (.inl kept)
      · obtain named | ⟨-, kept⟩ := Option.getD_eq_iff.1 setter
        · exact .inr (.inr named)
        · exact .inl (.inr kept)

end PropertyDescriptor

namespace Realm

variable {r r' : Realm β} {o o' : OrdinaryObject}

/-- Every getter and setter of the object is a function of the realm. -/
def CallsFunctions (r : Realm β) (o : OrdinaryObject) : Prop :=
  ∀ key p f, o.getOwn? key = some p → p.calls f → r.isCallable f = true

/-! ## Edits and new objects -/

theorem CallsFunctions.setOwn_data (before : r.CallsFunctions o) {key : PropertyKey}
    {p : PropertyDescriptor} (data : p.isData = true) : r.CallsFunctions (o.setOwn key p) := by
  intro other q f owned calls
  rw [OrdinaryObject.getOwn?_setOwn] at owned
  split at owned
  · cases owned
    exact absurd calls (PropertyDescriptor.not_calls_of_isData data f)
  · exact before other q f owned calls

theorem Edit.callsFunctions (edited : r.Edit o o') (before : r.CallsFunctions o) :
    r.CallsFunctions o' := by
  cases edited with
  | keep | preventExtensions | relink => exact before
  | write value owned => exact before.setOwn_data rfl
  | add value extensible absent => exact before.setOwn_data rfl
  | @define defined fields outcome o' callable accepted =>
    obtain ⟨kind, properties, shape, rfl, changed⟩ := OrdinaryObject.define_inv accepted
    intro key p f owned calls
    rw [OrdinaryObject.getOwn?] at owned
    cases changed with
    | unchanged => exact before key p f owned calls
    | created absent =>
      rw [OrderedMap.get?_insert] at owned
      split at owned
      · cases owned
        exact callable f (PropertyDescriptor.mem_of_calls_toNewDescriptor calls)
      · exact before key p f owned calls
    | updated present =>
      rw [OrderedMap.get?_insert] at owned
      split at owned
      · cases owned
        obtain kept | named := PropertyDescriptor.calls_of_merge calls
        · exact before defined _ f present kept
        · exact callable f named
      · exact before key p f owned calls
  | delete owned configurable =>
    intro key p f owned calls
    rw [OrdinaryObject.getOwn?, OrderedMap.get?_erase] at owned
    split at owned
    · cases owned
    · exact before key p f owned calls
  | makeSealed =>
    intro key p f owned calls
    rw [OrdinaryObject.getOwn?_sealed, Option.map_eq_some_iff] at owned
    obtain ⟨q, owned, rfl⟩ := owned
    exact before key q f owned ((q.calls_sealed f).1 calls)
  | makeFrozen =>
    intro key p f owned calls
    rw [OrdinaryObject.getOwn?_frozen, Option.map_eq_some_iff] at owned
    obtain ⟨q, owned, rfl⟩ := owned
    exact before key q f owned ((q.calls_frozen f).1 calls)

theorem Added.callsFunctions (added : r.Added o) : r.CallsFunctions o := by
  have empty : ∀ {prototype classTag}, r.CallsFunctions (.tagged prototype classTag) :=
    fun _ _ _ owned => nomatch owned
  cases added with
  | tagged => exact empty
  | newPrototype function => exact empty.setOwn_data rfl
  | linkedFunction prototype =>
    -- the flag of a function is not among its properties
    exact CallsFunctions.setOwn_data (o := r.newFunction) (fun _ _ _ owned => nomatch owned) rfl

/-! ## Realms -/

/-- The getters and setters of all objects are functions of the realm. -/
def AccessorsCallable (r : Realm β) : Prop :=
  ∀ h o, r.heap.get? h = some o → r.CallsFunctions o

theorem Transition.accessorsCallable (transition : r.Transition r')
    (before : r.AccessorsCallable) : r'.AccessorsCallable := by
  intro h o' live' key p f owned calls
  apply transition.isCallable
  obtain ⟨o, live, edited⟩ | ⟨-, added⟩ := transition.object_inv live'
  · exact edited.callsFunctions (before h o live) key p f owned calls
  · exact added.callsFunctions key p f owned calls

theorem intrinsic_properties_data :
    Intrinsics.heap.objects.toList.all (·.properties.values.all (·.isData)) = true := by
  decide

theorem ofConfig_accessorsCallable (config : RealmConfig) :
    (ofConfig config : Realm β).AccessorsCallable := by
  intro h o live key p f owned calls
  have data := Heap.forall_of_all intrinsic_properties_data live
  have pData := (OrderedMap.all_values_iff o.properties _).1 data key p owned
  exact absurd calls (PropertyDescriptor.not_calls_of_isData pData f)

theorem Reachable.accessorsCallable (reachable : r.Reachable) : r.AccessorsCallable :=
  reachable.invariant (fun transition => transition.accessorsCallable) ofConfig_accessorsCallable

end Realm

end ObjectModel
