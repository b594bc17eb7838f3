import ObjectModel.Proofs.Heap
import ObjectModel.Proofs.References

/-!
# What one operation does

`Realm.Edit` lists what an operation may do to an object that is already there, with the guard
under which it does it, and `Realm.Transition` what an operation may do to a realm: nothing but a
change of the event log, an edit of one object, a new object, or a new function.

`Realm.Effect` is the same for an operation that is known: it adds which references can be new.
`perform_effect` is the inversion of `Realm.perform`, and `perform_transition` forgets the
operation.  Nothing later opens an operation to learn what it preserves: an invariant of objects
has one case for each edit, an invariant of realms one for each transition or effect.

Reading and assigning depend on what the chain shows; `get_cases` and `put_cases` tell their cases
apart once, with the answer to each.
-/

namespace ObjectModel

variable {β : Type}

namespace Realm

/-- What one operation on a realm may do to an object. -/
inductive Edit (r : Realm β) (o : OrdinaryObject) : OrdinaryObject → Prop where
  | keep : Edit r o o
  /-- A writable own data property takes a value. -/
  | write {key value enumerable configurable} (value' : Value)
      (owned : o.getOwn? key = some (.data value true enumerable configurable)) :
      Edit r o (o.setOwn key (.data value' true enumerable configurable))
  | add {key} (value : Value) (extensible : o.extensible = true) (absent : o.getOwn? key = none) :
      Edit r o (o.setOwn key (.openData value))
  /-- A definition with callable accessor functions is accepted. -/
  | define {key fields outcome o'}
      (callable : ∀ f ∈ fields.accessorFunctions, r.isCallable f = true)
      (accepted : o.define key fields = .ok (outcome, o')) : Edit r o o'
  | delete {key p} (owned : o.getOwn? key = some p) (configurable : p.isConfigurable = true) :
      Edit r o { o with properties := o.properties.erase key }
  | preventExtensions : Edit r o o.preventExtensions
  | makeSealed : Edit r o o.sealed
  | makeFrozen : Edit r o o.frozen
  | relink {prototype : Option ObjectHandle} (extensible : o.extensible = true)
      (live : ∀ p, prototype = some p → r.heap.contains p = true) :
      Edit r o { o with prototype }

/-- A new function, before it has its own `prototype`. -/
def newFunction (r : Realm β) : OrdinaryObject :=
  { OrdinaryObject.tagged (some r.intrinsics.functionPrototype) "Function" with callable := true }

/-- The `prototype` of a new function. -/
def newPrototype (r : Realm β) (function : ObjectHandle) : OrdinaryObject :=
  (OrdinaryObject.tagged (some r.intrinsics.objectPrototype) "Object").setOwn
    ⟨"constructor"⟩ (.builtin (.object function))

/-- A new function with its own `prototype`. -/
def linkedFunction (r : Realm β) (prototype : ObjectHandle) : OrdinaryObject :=
  r.newFunction.setOwn ⟨"prototype"⟩ (.data (.object prototype) true false false)

/-- What one operation may do to a realm. -/
inductive Transition (r : Realm β) : Realm β → Prop where
  | quiet (events : EventLog) : Transition r { r with events }
  | edit {h o o'} (events : EventLog) (live : r.heap.get? h = some o) (edited : r.Edit o o') :
      Transition r { r with heap := r.heap.modify h fun _ => o', events }
  | alloc {prototype classTag h heap}
      (allocated : r.heap.alloc? (.tagged prototype classTag) = some (h, heap)) :
      Transition r { r with heap }
  | createFunction {h p heap heap'} (name : String) (body : β)
      (function : r.heap.alloc? r.newFunction = some (h, heap))
      (prototype : heap.alloc? (r.newPrototype h) = some (p, heap')) :
      Transition r
        { r with
          heap := heap'.modify h fun _ => r.linkedFunction p
          functions := r.functions.insert h ⟨name, body⟩ }

/-- What the operation `q` may do to a realm.  A new reference is one that `q` may store, and a new
object inherits from an object, unless `q` is an allocation that asks for another prototype. -/
inductive Effect (r : Realm β) (q : Request β) : Realm β → Prop where
  | quiet (events : EventLog) : Effect r q { r with events }
  | edit {h o o'} (events : EventLog) (live : r.heap.get? h = some o) (edited : r.Edit o o')
      (stored : ∀ k, o'.refersTo k → o.refersTo k ∨ q.stores k) :
      Effect r q { r with heap := r.heap.modify h fun _ => o', events }
  | alloc {prototype classTag h heap}
      (allocated : r.heap.alloc? (.tagged prototype classTag) = some (h, heap))
      (linked : ∀ p, prototype = some p → r.heap.contains p = true ∨
        p = r.intrinsics.objectPrototype ∨ q = .allocate (some p) classTag) :
      Effect r q { r with heap }
  | createFunction {h p heap heap'} (name : String) (body : β)
      (asked : q = .createFunction name body)
      (function : r.heap.alloc? r.newFunction = some (h, heap))
      (prototype : heap.alloc? (r.newPrototype h) = some (p, heap')) :
      Effect r q
        { r with
          heap := heap'.modify h fun _ => r.linkedFunction p
          functions := r.functions.insert h ⟨name, body⟩ }

theorem Effect.transition {r r' : Realm β} {q : Request β} (effect : r.Effect q r') :
    r.Transition r' := by
  cases effect with
  | quiet events => exact .quiet events
  | edit events live edited => exact .edit events live edited
  | alloc allocated => exact .alloc allocated
  | createFunction name body asked function prototype =>
    exact .createFunction name body function prototype

/-! ## Inversion of the operations -/

theorem noteTruncation_eq (r : Realm β) (object : ObjectHandle) (key : Option PropertyKey)
    (truncation : Option WalkTruncation) :
    ∃ events, r.noteTruncation object key truncation = { r with events } := by
  cases truncation with
  | none => exact ⟨r.events, rfl⟩
  | some t => exact ⟨_, rfl⟩

theorem noteTruncation_heap (r : Realm β) (object : ObjectHandle) (key : Option PropertyKey)
    (truncation : Option WalkTruncation) :
    (r.noteTruncation object key truncation).heap = r.heap := by
  obtain ⟨events, equal⟩ := r.noteTruncation_eq object key truncation
  rw [equal]

theorem noteTruncation_effect (r : Realm β) (q : Request β) (object : ObjectHandle)
    (key : Option PropertyKey) (truncation : Option WalkTruncation) :
    r.Effect q (r.noteTruncation object key truncation) := by
  obtain ⟨events, equal⟩ := r.noteTruncation_eq object key truncation
  rw [equal]
  exact .quiet events

theorem alloc_effect (r : Realm β) (q : Request β) (prototype : Option ObjectHandle)
    (classTag : String) (linked : ∀ p, prototype = some p → r.heap.contains p = true ∨
      p = r.intrinsics.objectPrototype ∨ q = .allocate (some p) classTag) :
    r.Effect q (r.alloc (.tagged prototype classTag)).2 := by
  unfold alloc
  split
  · next allocated => exact .alloc allocated linked
  · exact .quiet r.events

theorem newObject_effect (r : Realm β) : r.Effect .newObject r.newObject.2 :=
  r.alloc_effect _ _ _ fun _ named => .inr (.inl (Option.some.inj named).symm)

theorem createObject_effect (r : Realm β) (prototype : Option ObjectHandle) :
    r.Effect (.createObject prototype) (r.createObject prototype).2 := by
  unfold createObject
  split
  · exact .quiet r.events
  · next checked =>
    apply r.alloc_effect
    rintro p rfl
    exact .inl (by simpa using checked)

theorem allocate_effect (r : Realm β) (prototype : Option ObjectHandle) (classTag : String) :
    r.Effect (.allocate prototype classTag) (r.alloc (.tagged prototype classTag)).2 := by
  apply r.alloc_effect
  rintro p rfl
  exact .inr (.inr rfl)

theorem createFunction_effect (r : Realm β) (name : String) (body : β) :
    r.Effect (.createFunction name body) (r.createFunction name body).2 := by
  simp only [createFunction]
  split
  · exact .quiet r.events
  · next h heap function =>
    split
    · exact .quiet r.events
    · next p heap' prototype =>
      have live : heap'.get? h = some r.newFunction :=
        Heap.get?_alloc_of_live prototype (by rw [Heap.get?_alloc function, if_pos rfl]; rfl)
      rw [Heap.modify_eq_replace live]
      exact .createFunction name body rfl function prototype

theorem has_effect (r : Realm β) (object : ObjectHandle) (key : PropertyKey) :
    r.Effect (.has object key) (r.has object key).2 := by
  unfold has
  split
  · exact .quiet r.events
  · exact r.noteTruncation_effect ..

theorem enumerateKeys_effect (r : Realm β) (object : ObjectHandle) :
    r.Effect (.enumerateKeys object) (r.enumerateKeys object).2 := by
  unfold enumerateKeys
  split
  · exact .quiet r.events
  · exact r.noteTruncation_effect ..

theorem update_effect (r : Realm β) (q : Request β) (object : ObjectHandle)
    (f : OrdinaryObject → OrdinaryObject) (edits : ∀ o, r.Edit o (f o))
    (keeps : ∀ o k, (f o).refersTo k → o.refersTo k) :
    r.Effect q (r.update object f).2 := by
  unfold update
  split
  · next contains =>
    obtain ⟨o, live⟩ := (Heap.contains_iff r.heap object).1 contains
    rw [Heap.modify_eq_replace live]
    exact .edit r.events live (edits o) fun k refers => .inl (keeps o k refers)
  · exact .quiet r.events

theorem delete_effect (r : Realm β) (object : ObjectHandle) (key : PropertyKey) :
    r.Effect (.delete object key) (r.delete object key).2 := by
  unfold delete
  split
  · exact .quiet r.events
  · next o live =>
    dsimp only
    unfold OrdinaryObject.delete
    split
    · exact .edit r.events (Heap.get?_eq_some_of_get live) .keep fun _ => .inl
    · next p owned =>
      split
      · next configurable =>
        exact .edit r.events (Heap.get?_eq_some_of_get live) (.delete owned configurable)
          fun _ refers => .inl (OrdinaryObject.refersTo_erase refers)
      · exact .edit r.events (Heap.get?_eq_some_of_get live) .keep fun _ => .inl

/-- A definition that the object accepts, of functions that can be called. -/
theorem define_of_accepted {r : Realm β} {object : ObjectHandle} {key : PropertyKey}
    {fields : DescriptorFields} {o o' : OrdinaryObject} {outcome : DefineOutcome}
    (live : r.heap.get? object = some o)
    (callable : fields.accessorFunctions.find? (fun f => !r.isCallable f) = none)
    (accepted : o.define key fields = .ok (outcome, o')) :
    r.define object key fields = (.done (.ok outcome),
      ({ r with heap := r.heap.modify object fun _ => o' } : Realm β).noteDefine object key
        (.ok outcome)) := by
  rw [define, Heap.get_of_live live]
  simp only [callable, accepted]

theorem define_effect (r : Realm β) (object : ObjectHandle) (key : PropertyKey)
    (fields : DescriptorFields) :
    r.Effect (.define object key fields) (r.define object key fields).2 := by
  unfold define
  split
  · exact .quiet r.events
  · next o live =>
    split
    · exact .quiet _
    · next callable =>
      split
      · exact .quiet _
      · next outcome o' accepted =>
        refine .edit _ (Heap.get?_eq_some_of_get live) (.define ?_ accepted)
          fun _ => OrdinaryObject.refersTo_define accepted
        intro f mentioned
        simpa using List.find?_eq_none.1 callable f mentioned

theorem setPrototype_effect (r : Realm β) (object : ObjectHandle)
    (prototype : Option ObjectHandle) :
    r.Effect (.setPrototype object prototype) (r.setPrototype object prototype).2 := by
  unfold setPrototype
  split
  · exact .quiet r.events
  · next answer heap accepted =>
    obtain ⟨o, live, exists_, rfl | ⟨extensible, rfl⟩⟩ := Heap.setPrototype_inv accepted
    · exact .quiet r.events
    · rw [Heap.modify_eq_replace live]
      refine .edit r.events live (.relink extensible exists_) ?_
      rintro k (linked | kept)
      · exact .inr linked
      · exact .inl (.inr kept)

/-! ### Reading -/

/-- What reading a property answers and leaves, by what the chain of the object shows. -/
inductive GetCase (r : Realm β) (object : ObjectHandle) (key : PropertyKey) (receiver : Value) :
    Reply β Value × Realm β → Prop where
  | missing {e} (fails : r.heap.findProperty object key r.maxHops = .error e) :
      GetCase r object key receiver (.done (.error e), r)
  | data {owner value w e c}
      (ends : r.heap.findProperty object key r.maxHops =
        .ok ⟨some (owner, .data value w e c), none⟩) :
      GetCase r object key receiver (.done (.ok value), r)
  | getter {owner getter set e c}
      (ends : r.heap.findProperty object key r.maxHops =
        .ok ⟨some (owner, .accessor (some getter) set e c), none⟩) :
      GetCase r object key receiver (r.call getter receiver [] id, r)
  | noGetter {owner set e c}
      (ends : r.heap.findProperty object key r.maxHops =
        .ok ⟨some (owner, .accessor none set e c), none⟩) :
      GetCase r object key receiver (.done (.ok .undefined), r)
  | absent {truncation}
      (ends : r.heap.findProperty object key r.maxHops = .ok ⟨none, truncation⟩) :
      GetCase r object key receiver
        (.done (.ok .undefined), r.noteTruncation object (some key) truncation)

theorem get_cases (r : Realm β) (object : ObjectHandle) (key : PropertyKey) (receiver : Value) :
    r.GetCase object key receiver (r.get object key receiver) := by
  unfold get
  cases ends : r.heap.findProperty object key r.maxHops with
  | error e => exact .missing ends
  | ok lookup =>
    obtain ⟨found, truncation⟩ := lookup
    cases found with
    | none => exact .absent ends
    | some entry =>
      obtain ⟨owner, shown⟩ := entry
      obtain ⟨-, untruncated⟩ := Heap.findProperty_found ends rfl
      cases untruncated
      cases shown with
      | data value w e c => exact .data ends
      | accessor get set e c =>
        cases get with
        | none => exact .noGetter ends
        | some getter => exact .getter ends

theorem get_own_data {r : Realm β} {object : ObjectHandle} {o : OrdinaryObject} {key : PropertyKey}
    {v : Value} {w e c : Bool} (live : r.heap.get? object = some o)
    (owned : o.getOwn? key = some (.data v w e c)) (receiver : Value) :
    r.get object key receiver = (.done (.ok v), r) := by
  rw [get, Heap.findProperty_of_own live owned]
  rfl

theorem get_effect (r : Realm β) (object : ObjectHandle) (key : PropertyKey)
    (receiver : Value) : r.Effect (.get object key receiver) (r.get object key receiver).2 := by
  have step := r.get_cases object key receiver
  generalize r.get object key receiver = result at step ⊢
  cases step with
  | missing | data | getter | noGetter => exact .quiet r.events
  | absent => exact r.noteTruncation_effect ..

/-! ### Assignment -/

/-- What an assignment answers and leaves, by what the chain of the object shows under the key. -/
inductive PutCase (r : Realm β) (object : ObjectHandle) (key : PropertyKey)
    (value receiver : Value) : Reply β Unit × Realm β → Prop where
  | missing {e} (fails : r.heap.findProperty object key r.maxHops = .error e) :
      PutCase r object key value receiver (.done (.error e), r)
  | setter {owner get setter e c}
      (ends : r.heap.findProperty object key r.maxHops =
        .ok ⟨some (owner, .accessor get (some setter) e c), none⟩) :
      PutCase r object key value receiver (r.call setter receiver [value] (fun _ => ()), r)
  | noSetter {owner get e c}
      (ends : r.heap.findProperty object key r.maxHops =
        .ok ⟨some (owner, .accessor get none e c), none⟩) :
      PutCase r object key value receiver
        (.done (.ok ()), r.notePutIgnored object key "no_setter")
  | nonWritable {owner old e c}
      (ends : r.heap.findProperty object key r.maxHops =
        .ok ⟨some (owner, .data old false e c), none⟩) :
      PutCase r object key value receiver
        (.done (.ok ()), r.notePutIgnored object key "non_writable")
  | write {o old e c} (live : r.heap.get? object = some o)
      (owned : o.getOwn? key = some (.data old true e c)) :
      PutCase r object key value receiver
        (.done (.ok ()),
          { r with heap := r.heap.modify object fun _ => o.setOwn key (.data value true e c) })
  | add {o lookup} (live : r.heap.get? object = some o)
      (ends : r.heap.findProperty object key r.maxHops = .ok lookup)
      (absent : o.getOwn? key = none) (writable : lookup.found.all (·.2.isWritable) = true)
      (extensible : o.extensible = true) :
      PutCase r object key value receiver
        (.done (.ok ()),
          { r.noteTruncation object (some key) lookup.truncation with
            heap := r.heap.modify object fun _ => o.setOwn key (.openData value) })
  | closed {o lookup} (live : r.heap.get? object = some o)
      (ends : r.heap.findProperty object key r.maxHops = .ok lookup)
      (absent : o.getOwn? key = none) (writable : lookup.found.all (·.2.isWritable) = true)
      (extensible : o.extensible = false) :
      PutCase r object key value receiver
        (.done (.ok ()),
          (r.noteTruncation object (some key) lookup.truncation).notePutIgnored object key
            "not_extensible")

section Put

variable {r : Realm β} {object : ObjectHandle} {o : OrdinaryObject} {key : PropertyKey}
  {lookup : PropertyLookup}

/-- The last two cases, which `put` tells apart after it has looked at the chain. -/
theorem putCase_of_absent (live : r.heap.get? object = some o)
    (ends : r.heap.findProperty object key r.maxHops = .ok lookup)
    (absent : o.getOwn? key = none) (writable : lookup.found.all (·.2.isWritable) = true)
    (value receiver : Value) :
    r.PutCase object key value receiver
      (.done (.ok ()),
        let noted := r.noteTruncation object (some key) lookup.truncation
        if (noted.heap.get? object).any (·.extensible) then
          { noted with heap := noted.heap.modify object (·.setOwn key (.openData value)) }
        else noted.notePutIgnored object key "not_extensible") := by
  dsimp only
  rw [noteTruncation_heap, live, Option.any_some, Heap.modify_eq_replace live]
  cases extensible : o.extensible with
  | true => exact .add live ends absent writable extensible
  | false => exact .closed live ends absent writable extensible

theorem put_cases (r : Realm β) (object : ObjectHandle) (key : PropertyKey)
    (value receiver : Value) :
    r.PutCase object key value receiver (r.put object key value receiver) := by
  unfold put
  cases ends : r.heap.findProperty object key r.maxHops with
  | error e => exact .missing ends
  | ok lookup =>
    obtain ⟨o, live⟩ := Heap.live_of_findProperty ends
    obtain ⟨found, truncation⟩ := lookup
    cases found with
    | none =>
      have absent := Heap.getOwn?_of_found_elsewhere live ends fun _ here => nomatch here
      exact putCase_of_absent live ends absent rfl value receiver
    | some entry =>
      -- a search that found something was not cut off, so there is nothing to report
      obtain ⟨owner, shown⟩ := entry
      obtain ⟨⟨p, ownerLive, owned⟩, untruncated⟩ := Heap.findProperty_found ends rfl
      cases untruncated
      cases shown with
      | accessor get set e c =>
        cases set with
        | none => exact .noSetter ends
        | some setter => exact .setter ends
      | data old writable e c =>
        cases writable with
        | false => exact .nonWritable ends
        | true =>
          by_cases same : owner = object
          · subst same
            simp only [noteTruncation, if_true, Heap.modify_eq_replace ownerLive]
            exact .write ownerLive owned
          · have absent := Heap.getOwn?_of_found_elsewhere live ends fun p here => by
              cases here
              exact same rfl
            simp only [if_neg same]
            exact putCase_of_absent live ends absent rfl value receiver

end Put

theorem put_effect (r : Realm β) (object : ObjectHandle) (key : PropertyKey)
    (value receiver : Value) :
    r.Effect (.put object key value receiver) (r.put object key value receiver).2 := by
  have stored : ∀ {o : OrdinaryObject} {w e c} k,
      (o.setOwn key (.data value w e c)).refersTo k → o.refersTo k ∨ value = .object k :=
    fun _ refers => (OrdinaryObject.refersTo_setOwn refers).imp_right
      PropertyDescriptor.refersTo_data.1
  have step := r.put_cases object key value receiver
  generalize r.put object key value receiver = result at step ⊢
  cases step with
  | missing | setter => exact .quiet r.events
  | noSetter | nonWritable => exact .quiet _
  | write live owned => exact .edit r.events live (.write value owned) stored
  | @add o lookup live ends absent writable extensible =>
    obtain ⟨events, noted⟩ := r.noteTruncation_eq object (some key) lookup.truncation
    rw [noted]
    exact .edit events live (.add value extensible absent) stored
  | @closed o lookup =>
    obtain ⟨events, noted⟩ := r.noteTruncation_eq object (some key) lookup.truncation
    rw [noted]
    exact .quiet _

/-! ### Any operation -/

/-- Whatever is asked of a realm, this is all that can happen to it. -/
theorem perform_effect (r : Realm β) (q : Request β) : r.Effect q (r.perform q).2 := by
  cases q with
  | newObject => exact r.newObject_effect
  | createObject prototype => exact r.createObject_effect prototype
  | allocate prototype classTag => exact r.allocate_effect prototype classTag
  | createFunction name body => exact r.createFunction_effect name body
  | call function this args => exact .quiet r.events
  | get object key receiver => exact r.get_effect object key receiver
  | put object key value receiver => exact r.put_effect object key value receiver
  | has object key => exact r.has_effect object key
  | define object key fields => exact r.define_effect object key fields
  | delete object key => exact r.delete_effect object key
  | enumerateKeys object => exact r.enumerateKeys_effect object
  | preventExtensions object =>
    exact r.update_effect _ object _ (fun _ => .preventExtensions) fun _ _ => id
  | makeSealed object =>
    exact r.update_effect _ object _ (fun _ => .makeSealed)
      fun _ _ => OrdinaryObject.refersTo_sealed
  | makeFrozen object =>
    exact r.update_effect _ object _ (fun _ => .makeFrozen)
      fun _ _ => OrdinaryObject.refersTo_frozen
  | setPrototype object prototype => exact r.setPrototype_effect object prototype
  | drainEvents => exact .quiet _

theorem perform_transition (r : Realm β) (q : Request β) : r.Transition (r.perform q).2 :=
  (r.perform_effect q).transition

end Realm

end ObjectModel
