import ObjectModel.Proofs.Transition

/-!
# Strings are never made

A vocabulary is a collection of strings.  Something speaks in it if all strings that it holds are
from it.  No operation of a realm makes a string: as long as operations are given strings of a
vocabulary only, the realm goes on to speak in it, and so do the answers (`Realm.Speaks.perform`).
An error has the texts of the operation that fails, so it speaks in the vocabulary too.
-/

namespace ObjectModel

variable {β α γ : Type} {vocabulary : String → Prop}

/-! ## What speaks -/

/-- If the value is a string, it is from the vocabulary. -/
def Value.Speaks (vocabulary : String → Prop) (v : Value) : Prop :=
  ∀ s, v = .string s → vocabulary s

def PropertyDescriptor.Speaks (vocabulary : String → Prop) (p : PropertyDescriptor) : Prop :=
  ∀ v, p.value? = some v → v.Speaks vocabulary

def DescriptorFields.Speaks (vocabulary : String → Prop) (d : DescriptorFields) : Prop :=
  ∀ v, d.value = some v → v.Speaks vocabulary

def OrdinaryObject.Speaks (vocabulary : String → Prop) (o : OrdinaryObject) : Prop :=
  ∀ key p, o.getOwn? key = some p → p.Speaks vocabulary

def Realm.Speaks (vocabulary : String → Prop) (r : Realm β) : Prop :=
  ∀ h o, r.heap.get? h = some o → o.Speaks vocabulary

/-- The key that the error names. -/
def DefineError.key? : DefineError → Option PropertyKey
  | nonconfigurableRedefined key | nonwritableModified key | notExtensible key => some key
  | descriptorMismatch | invalidWritableDescriptor => none

/-- The texts in the error are from the vocabulary. -/
def ObjectError.Speaks (vocabulary : String → Prop) : ObjectError → Prop
  | define e => ∀ key, e.key? = some key → vocabulary key.text
  | typeError detail => vocabulary detail
  | objectNotFound _ | notCallable _ => True

/-- The values that the operation gives to the realm or to a function are from the vocabulary, and
so is the key that a definition can be rejected for. -/
def Request.Speaks (vocabulary : String → Prop) : Request β → Prop
  | call _ this args => this.Speaks vocabulary ∧ ∀ a ∈ args, a.Speaks vocabulary
  | get _ _ receiver => receiver.Speaks vocabulary
  | put _ _ value receiver => value.Speaks vocabulary ∧ receiver.Speaks vocabulary
  | define _ key fields => vocabulary key.text ∧ fields.Speaks vocabulary
  | _ => True

/-- If the operation answers with a value, it is from the vocabulary. -/
def Request.AnswerSpeaks (vocabulary : String → Prop) : (q : Request β) → q.Answer → Prop
  | call .., v | get .., v => Value.Speaks vocabulary v
  | _, _ => True

/-- A result is a value or an error as stated. -/
def Meets {ε : Type} (Holds : α → Prop) (Fails : ε → Prop) : Except ε α → Prop
  | .ok a => Holds a
  | .error e => Fails e

theorem Meets.bind {ε : Type} {Mid : α → Prop} {Holds : γ → Prop} {Fails : ε → Prop}
    {e : Except ε α} {f : α → Except ε γ} (first : Meets Mid Fails e)
    (rest : ∀ a, Mid a → Meets Holds Fails (f a)) : Meets Holds Fails (e >>= f) := by
  cases e with
  | ok a => exact rest a first
  | error e => exact first

theorem Meets.error {ε : Type} {Holds : α → Prop} {Fails : ε → Prop} {result : Except ε α} {e : ε}
    (meets : Meets Holds Fails result) (failed : result = .error e) : Fails e := by
  subst failed
  exact meets

/-! ## Properties and objects -/

theorem Value.speaks_object (h : ObjectHandle) : (Value.object h).Speaks vocabulary := nofun

namespace PropertyDescriptor

theorem speaks_data {v : Value} {w e c : Bool} :
    (data v w e c).Speaks vocabulary ↔ v.Speaks vocabulary :=
  ⟨fun speaks => speaks v rfl, fun speaks _ held => Option.some.inj held ▸ speaks⟩

theorem speaks_accessor (get set : Option ObjectHandle) (e c : Bool) :
    (accessor get set e c).Speaks vocabulary :=
  nofun

theorem Speaks.sealed {p : PropertyDescriptor} (speaks : p.Speaks vocabulary) :
    p.sealed.Speaks vocabulary := by
  cases p <;> exact speaks

theorem Speaks.frozen {p : PropertyDescriptor} (speaks : p.Speaks vocabulary) :
    p.frozen.Speaks vocabulary := by
  cases p <;> exact speaks

variable {d : DescriptorFields} (given : d.Speaks vocabulary) (kind : DescriptorKind)

include given

/-- The value of the literal, or another one where it has none. -/
theorem speaks_getD {v : Value} (speaks : v.Speaks vocabulary) :
    (d.value.getD v).Speaks vocabulary := by
  cases named : d.value with
  | none => exact speaks
  | some u => exact given u named

theorem speaks_toNewDescriptor : (d.toNewDescriptor kind).Speaks vocabulary := by
  cases kind with
  | accessor => exact speaks_accessor _ _ _ _
  | generic | data => exact speaks_data.2 (speaks_getD given nofun)

theorem Speaks.merge {current : PropertyDescriptor} (speaks : current.Speaks vocabulary) :
    (current.merge d kind).Speaks vocabulary := by
  cases current with
  | data value writable e c =>
    cases kind with
    | accessor => exact speaks_accessor _ _ _ _
    | generic | data => exact speaks_data.2 (speaks_getD given (speaks_data.1 speaks))
  | accessor get set e c =>
    cases kind with
    | data => exact speaks_data.2 (speaks_getD given nofun)
    | generic | accessor => exact speaks_accessor _ _ _ _

end PropertyDescriptor

namespace OrdinaryObject

variable {o : OrdinaryObject}

theorem speaks_tagged (prototype : Option ObjectHandle) (classTag : String) :
    (tagged prototype classTag).Speaks vocabulary :=
  nofun

theorem Speaks.setOwn (speaks : o.Speaks vocabulary) (key : PropertyKey) {p : PropertyDescriptor}
    (stored : p.Speaks vocabulary) : (o.setOwn key p).Speaks vocabulary := by
  intro other q owned
  rw [getOwn?_setOwn] at owned
  split at owned
  · cases owned
    exact stored
  · exact speaks other q owned

theorem Speaks.define {o' : OrdinaryObject} (speaks : o.Speaks vocabulary) {key : PropertyKey}
    {d : DescriptorFields} {outcome : DefineOutcome} (given : d.Speaks vocabulary)
    (accepted : o.define key d = .ok (outcome, o')) : o'.Speaks vocabulary := by
  obtain ⟨kind, properties, shape, rfl, changed⟩ := define_inv accepted
  cases changed with
  | unchanged => exact speaks
  | created absent =>
    exact speaks.setOwn key (PropertyDescriptor.speaks_toNewDescriptor given kind)
  | updated present => exact speaks.setOwn key ((speaks key _ present).merge given kind)

theorem Speaks.erase (speaks : o.Speaks vocabulary) (key : PropertyKey) :
    ({ o with properties := o.properties.erase key } : OrdinaryObject).Speaks vocabulary := by
  intro other p owned
  rw [getOwn?, OrderedMap.get?_erase] at owned
  split at owned
  · cases owned
  · exact speaks other p owned

theorem Speaks.sealed (speaks : o.Speaks vocabulary) : o.sealed.Speaks vocabulary := by
  intro key p owned
  rw [getOwn?_sealed, Option.map_eq_some_iff] at owned
  obtain ⟨q, owned, rfl⟩ := owned
  exact (speaks key q owned).sealed

theorem Speaks.frozen (speaks : o.Speaks vocabulary) : o.frozen.Speaks vocabulary := by
  intro key p owned
  rw [getOwn?_frozen, Option.map_eq_some_iff] at owned
  obtain ⟨q, owned, rfl⟩ := owned
  exact (speaks key q owned).frozen

end OrdinaryObject

/-! ## Errors -/

section Rejected

/-- The error names no other key. -/
def DefineError.Concerns (key : PropertyKey) (e : DefineError) : Prop :=
  ∀ other, e.key? = some other → other = key

variable (key : PropertyKey) (d : DescriptorFields)

theorem DescriptorFields.classify_fails :
    Meets (fun _ => True) (DefineError.Concerns key) d.classify := by
  unfold classify
  split
  · split
    · exact nofun
    · split
      · exact nofun
      · trivial
  · split <;> trivial

theorem PropertyDescriptor.checkFixed_fails (current : PropertyDescriptor) (kind : DescriptorKind) :
    Meets (fun _ => True) (DefineError.Concerns key) (current.checkFixed d kind key) := by
  have redefined : (DefineError.nonconfigurableRedefined key).Concerns key := by
    rintro _ ⟨⟩
    rfl
  have modified : (DefineError.nonwritableModified key).Concerns key := by
    rintro _ ⟨⟩
    rfl
  fun_cases checkFixed <;> first | exact redefined | exact modified | trivial

/-- A definition is rejected for the key that it defines, or for the shape of its literal. -/
theorem PropertyTable.define_fails (t : PropertyTable) (extensible : Bool) :
    Meets (fun _ => True) (DefineError.Concerns key) (t.define extensible key d) := by
  refine (d.classify_fails key).bind fun kind _ => ?_
  split
  · split
    · trivial
    · rintro _ ⟨⟩
      rfl
  · next current _ =>
    dsimp only
    split
    · refine (current.checkFixed_fails key d kind).bind fun _ _ => ?_
      split <;> trivial
    · split <;> trivial

theorem OrdinaryObject.define_fails (o : OrdinaryObject) :
    Meets (fun _ => True) (DefineError.Concerns key) (o.define key d) :=
  (o.properties.define_fails key d o.extensible).bind fun _ _ => trivial

end Rejected

namespace Heap

variable (heap : Heap) (h : ObjectHandle)

theorem get_fails : Meets (fun _ => True) (ObjectError.Speaks vocabulary) (heap.get h) := by
  unfold get
  split <;> trivial

theorem walkUntil_fails (stop : OrdinaryObject → Bool) (maxHops : Nat) :
    Meets (fun _ => True) (ObjectError.Speaks vocabulary) (heap.walkUntil stop h maxHops) :=
  (heap.get_fails h).bind fun _ _ => trivial

theorem findProperty_fails (key : PropertyKey) (maxHops : Nat) :
    Meets (fun _ => True) (ObjectError.Speaks vocabulary) (heap.findProperty h key maxHops) :=
  (heap.walkUntil_fails h _ maxHops).bind fun _ _ => trivial

theorem enumerateKeys_fails (maxHops : Nat) :
    Meets (fun _ => True) (ObjectError.Speaks vocabulary) (heap.enumerateKeys h maxHops) :=
  (heap.walkUntil_fails h _ maxHops).bind fun _ _ => trivial

theorem setPrototype_fails (prototype : Option ObjectHandle) :
    Meets (fun _ => True) (ObjectError.Speaks vocabulary) (heap.setPrototype h prototype) := by
  have relinked : Meets (fun _ => True)
      (ObjectError.Speaks vocabulary) (do
        let o ← heap.get h
        if o.extensible then return (true, heap.modify h fun o => { o with prototype })
        else return (o.prototype == prototype, heap)) := by
    refine (heap.get_fails h).bind fun o _ => ?_
    split <;> trivial
  cases prototype with
  | none => exact relinked
  | some p => exact (heap.get_fails p).bind fun _ _ => relinked

end Heap

/-! ## Operations -/

namespace Realm

variable {r r' : Realm β}

/-- What an operation answers, and the realm that it leaves: both speak in the vocabulary, or a
function is called with values from it, and whatever value from it comes back is as stated. -/
inductive Utters (vocabulary : String → Prop) (Holds : α → Prop) :
    Reply β α × Realm β → Prop where
  | done {result s} (after : s.Speaks vocabulary)
      (meets : Meets Holds (ObjectError.Speaks vocabulary) result) :
      Utters vocabulary Holds (.done result, s)
  | call {f function this args finish s} (after : s.Speaks vocabulary)
      (registered : s.functions.get? f = some function) (receiver : this.Speaks vocabulary)
      (given : ∀ a ∈ args, a.Speaks vocabulary)
      (finishes : ∀ v, v.Speaks vocabulary → Holds (finish v)) :
      Utters vocabulary Holds (.call function.body this args finish, s)
  | exhausted {s} (after : s.Speaks vocabulary) : Utters vocabulary Holds (.exhausted, s)

section Heap

theorem Speaks.of_heap (speaks : r.Speaks vocabulary) (same : r'.heap = r.heap) :
    r'.Speaks vocabulary := by
  intro h o live
  rw [same] at live
  exact speaks h o live

theorem Speaks.noteTruncation (speaks : r.Speaks vocabulary) (object : ObjectHandle)
    (key : Option PropertyKey) (truncation : Option WalkTruncation) :
    (r.noteTruncation object key truncation).Speaks vocabulary :=
  speaks.of_heap (r.noteTruncation_heap object key truncation)

theorem Speaks.modify (speaks : r.Speaks vocabulary) (object : ObjectHandle)
    {f : OrdinaryObject → OrdinaryObject}
    (keeps : ∀ o, r.heap.get? object = some o → (f o).Speaks vocabulary)
    (changed : r'.heap = r.heap.modify object f) : r'.Speaks vocabulary := by
  intro h o live
  rw [changed, Heap.get?_modify] at live
  split at live
  · next same =>
    subst same
    obtain ⟨before, held, rfl⟩ := Option.map_eq_some_iff.1 live
    exact keeps before held
  · exact speaks h o live

theorem Speaks.allocated (speaks : r.Speaks vocabulary) {o : OrdinaryObject}
    (new : o.Speaks vocabulary) {h : ObjectHandle}
    (allocated : r.heap.alloc? o = some (h, r'.heap)) : r'.Speaks vocabulary := by
  intro k p live
  rw [Heap.get?_alloc allocated] at live
  split at live
  · cases live
    exact new
  · exact speaks k p live

end Heap

/-! ### Adding objects -/

theorem Speaks.alloc (speaks : r.Speaks vocabulary) {o : OrdinaryObject}
    (new : o.Speaks vocabulary) : Utters vocabulary (fun _ => True) (r.alloc o) := by
  unfold Realm.alloc
  split
  · next allocated => exact .done (speaks.allocated new allocated) trivial
  · exact .exhausted speaks

theorem Speaks.createObject (speaks : r.Speaks vocabulary) (prototype : Option ObjectHandle) :
    Utters vocabulary (fun _ => True) (r.createObject prototype) := by
  unfold Realm.createObject
  split
  · exact .done speaks trivial
  · exact speaks.alloc (OrdinaryObject.speaks_tagged _ _)

/-- A new function and its `prototype` hold each other, and no string. -/
theorem Speaks.createFunction (speaks : r.Speaks vocabulary) (name : String) (body : β) :
    Utters vocabulary (fun _ => True) (r.createFunction name body) := by
  simp only [Realm.createFunction]
  split
  · exact .exhausted speaks
  · next h heap function =>
    -- a function is there without properties until its prototype is
    have bare : r.newFunction.Speaks vocabulary := by
      intro key p owned
      cases owned
    have first : Speaks vocabulary { r with heap } := speaks.allocated bare function
    split
    · exact .exhausted speaks
    · next p heap' prototype =>
      have holds : ∀ k w e c, (PropertyDescriptor.data (.object k) w e c).Speaks vocabulary :=
        fun k _ _ _ => PropertyDescriptor.speaks_data.2 (Value.speaks_object k)
      have constructor : (r.newPrototype h).Speaks vocabulary :=
        (OrdinaryObject.speaks_tagged _ _).setOwn _ (holds _ _ _ _)
      have second : Speaks vocabulary { r with heap := heap' } :=
        first.allocated constructor prototype
      refine .done (second.modify h (fun o live => ?_) rfl) trivial
      exact (second h o live).setOwn _ (holds _ _ _ _)

/-! ### Reading and writing -/

theorem callError_speaks (r : Realm β) (h : ObjectHandle) :
    (r.callError h).Speaks vocabulary := by
  unfold callError
  split <;> trivial

theorem Speaks.call {finish : Value → α} {Holds : α → Prop} (speaks : r.Speaks vocabulary)
    (f : ObjectHandle) {this : Value} {args : List Value} (receiver : this.Speaks vocabulary)
    (given : ∀ a ∈ args, a.Speaks vocabulary)
    (finishes : ∀ v, v.Speaks vocabulary → Holds (finish v)) :
    Utters vocabulary Holds (r.call f this args finish, r) := by
  unfold Realm.call
  split
  · next registered => exact .call speaks registered receiver given finishes
  · exact .done speaks (r.callError_speaks f)

theorem Speaks.get (speaks : r.Speaks vocabulary) (object : ObjectHandle) (key : PropertyKey)
    {receiver : Value} (receives : receiver.Speaks vocabulary) :
    Utters vocabulary (Value.Speaks vocabulary) (r.get object key receiver) := by
  have step := r.get_cases object key receiver
  generalize r.get object key receiver = answer at step ⊢
  cases step with
  | missing fails =>
    exact .done speaks ((r.heap.findProperty_fails object key r.maxHops).error fails)
  | data ends =>
    obtain ⟨⟨p, ownerLive, owned⟩, -⟩ := Heap.findProperty_found ends rfl
    exact .done speaks (PropertyDescriptor.speaks_data.1 (speaks _ p ownerLive key _ owned))
  | getter => exact speaks.call _ receives nofun fun _ => id
  | noGetter => exact .done speaks nofun
  | absent => exact .done (speaks.noteTruncation _ _ _) nofun

theorem Speaks.put (speaks : r.Speaks vocabulary) (object : ObjectHandle) (key : PropertyKey)
    {value receiver : Value} (given : value.Speaks vocabulary)
    (receives : receiver.Speaks vocabulary) :
    Utters vocabulary (fun _ => True) (r.put object key value receiver) := by
  have stored : ∀ {w e c}, (PropertyDescriptor.data value w e c).Speaks vocabulary :=
    PropertyDescriptor.speaks_data.2 given
  have step := r.put_cases object key value receiver
  generalize r.put object key value receiver = answer at step ⊢
  cases step with
  | missing fails =>
    exact .done speaks ((r.heap.findProperty_fails object key r.maxHops).error fails)
  | setter => exact speaks.call _ receives (by simpa using given) fun _ _ => trivial
  | noSetter | nonWritable => exact .done (speaks.of_heap rfl) trivial
  | write live =>
    exact .done (speaks.modify object (fun _ _ => (speaks _ _ live).setOwn key stored) rfl) trivial
  | add live =>
    exact .done (speaks.modify object (fun _ _ => (speaks _ _ live).setOwn key stored) rfl) trivial
  | closed => exact .done ((speaks.noteTruncation _ _ _).of_heap rfl) trivial

theorem Speaks.has (speaks : r.Speaks vocabulary) (object : ObjectHandle) (key : PropertyKey) :
    Utters vocabulary (fun _ => True) (r.has object key) := by
  unfold Realm.has
  split
  · next failed =>
    exact .done speaks ((r.heap.findProperty_fails object key r.maxHops).error failed)
  · exact .done (speaks.noteTruncation _ _ _) trivial

/-! ### Other operations on one object -/

theorem Speaks.define (speaks : r.Speaks vocabulary) (object : ObjectHandle) {key : PropertyKey}
    (named : vocabulary key.text) {fields : DescriptorFields} (given : fields.Speaks vocabulary) :
    Utters vocabulary (fun _ => True) (r.define object key fields) := by
  unfold Realm.define
  split
  · next missing => exact .done speaks ((r.heap.get_fails object).error missing)
  · next o live =>
    split
    · exact .done (speaks.of_heap rfl) trivial
    · split
      · next e rejected =>
        refine .done (speaks.of_heap rfl) fun other names => ?_
        rw [(o.define_fails key fields).error rejected other names]
        exact named
      · next outcome o' accepted =>
        have before := speaks object o (Heap.get?_eq_some_of_get live)
        exact .done (speaks.modify object (fun _ _ => before.define given accepted) rfl) trivial

theorem Speaks.delete (speaks : r.Speaks vocabulary) (object : ObjectHandle) (key : PropertyKey) :
    Utters vocabulary (fun _ => True) (r.delete object key) := by
  unfold Realm.delete
  split
  · next missing => exact .done speaks ((r.heap.get_fails object).error missing)
  · next o live =>
    have before := speaks object o (Heap.get?_eq_some_of_get live)
    refine .done (speaks.modify object (fun _ _ => ?_) rfl) trivial
    split
    · exact before
    · split
      · exact before.erase key
      · exact before

theorem Speaks.enumerateKeys (speaks : r.Speaks vocabulary) (object : ObjectHandle) :
    Utters vocabulary (fun _ => True) (r.enumerateKeys object) := by
  unfold Realm.enumerateKeys
  split
  · next failed => exact .done speaks ((r.heap.enumerateKeys_fails object r.maxHops).error failed)
  · exact .done (speaks.noteTruncation _ _ _) trivial

theorem Speaks.update (speaks : r.Speaks vocabulary) (object : ObjectHandle)
    {f : OrdinaryObject → OrdinaryObject}
    (keeps : ∀ o : OrdinaryObject, o.Speaks vocabulary → (f o).Speaks vocabulary) :
    Utters vocabulary (fun _ => True) (r.update object f) := by
  unfold Realm.update
  split
  · exact .done (speaks.modify object (fun o live => keeps o (speaks object o live)) rfl) trivial
  · exact .done speaks trivial

theorem Speaks.setPrototype (speaks : r.Speaks vocabulary) (object : ObjectHandle)
    (prototype : Option ObjectHandle) :
    Utters vocabulary (fun _ => True) (r.setPrototype object prototype) := by
  unfold Realm.setPrototype
  split
  · next failed => exact .done speaks ((r.heap.setPrototype_fails object prototype).error failed)
  · next answer heap accepted =>
    obtain ⟨o, live, -, rfl | ⟨-, rfl⟩⟩ := Heap.setPrototype_inv accepted
    · exact .done speaks trivial
    · have relinked : ∀ o : OrdinaryObject, o.Speaks vocabulary →
          ({ o with prototype } : OrdinaryObject).Speaks vocabulary := fun _ => id
      refine .done (speaks.modify object (fun o live => ?_) rfl) trivial
      exact relinked o (speaks object o live)

/-! ### Any operation -/

/-- An operation that is given strings of the vocabulary leaves and answers no others. -/
theorem Speaks.perform (speaks : r.Speaks vocabulary) {q : Request β}
    (given : q.Speaks vocabulary) :
    Utters vocabulary (q.AnswerSpeaks vocabulary) (r.perform q) := by
  cases q with
  | newObject => exact speaks.alloc (OrdinaryObject.speaks_tagged _ _)
  | createObject prototype => exact speaks.createObject prototype
  | allocate prototype classTag => exact speaks.alloc (OrdinaryObject.speaks_tagged _ _)
  | createFunction name body => exact speaks.createFunction name body
  | call f this args => exact speaks.call f given.1 given.2 fun _ => id
  | get object key receiver => exact speaks.get object key given
  | put object key value receiver => exact speaks.put object key given.1 given.2
  | has object key => exact speaks.has object key
  | define object key fields => exact speaks.define object given.1 given.2
  | delete object key => exact speaks.delete object key
  | enumerateKeys object => exact speaks.enumerateKeys object
  | preventExtensions object => exact speaks.update object fun _ => id
  | makeSealed object => exact speaks.update object fun _ => OrdinaryObject.Speaks.sealed
  | makeFrozen object => exact speaks.update object fun _ => OrdinaryObject.Speaks.frozen
  | setPrototype object prototype => exact speaks.setPrototype object prototype
  | drainEvents => exact .done (speaks.of_heap rfl) trivial

theorem intrinsic_values_no_strings : Intrinsics.heap.objects.toList.all (fun o =>
    o.properties.values.all fun p => p.value?.all fun v =>
      match v with
      | .string _ => false
      | _ => true) = true := by
  decide

theorem ofConfig_speaks (config : RealmConfig) : (ofConfig config : Realm β).Speaks vocabulary := by
  rintro h o live key p owned _ held s rfl
  have checked := Heap.forall_of_all intrinsic_values_no_strings live
  rw [OrderedMap.all_values_iff] at checked
  have found := checked key p owned
  rw [held] at found
  cases found

end Realm

end ObjectModel
