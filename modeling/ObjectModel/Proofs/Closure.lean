import ObjectModel.Proofs.Links

/-!
# Closed realms

A realm is closed if whatever its objects refer to exists and whatever they call is a function.
Operations keep a realm closed as long as what they are given exists (`Effect.closed`), and answer
with what exists: `Realm.Replies` says what an operation hands out, to whoever asked or to the body
of the function that it calls, and there is one lemma for each operation that a scenario uses.
-/

namespace ObjectModel

variable {β α : Type}

namespace Realm

variable {r r' : Realm β} {o o' : OrdinaryObject} {q : Request β}

/-- The value is no missing object. -/
def Knows (r : Realm β) (v : Value) : Prop :=
  ∀ h, v = .object h → r.heap.contains h = true

structure Closed (r : Realm β) : Prop where
  references : ∀ h o k, r.heap.get? h = some o → o.refersTo k → r.heap.contains k = true
  intrinsics : r.IntrinsicsLive
  accessors : r.AccessorsCallable

/-- No object is lost. -/
def Grows (r s : Realm β) : Prop :=
  ∀ h, r.heap.contains h = true → s.heap.contains h = true

theorem Grows.knows (grows : r.Grows r') {v : Value} (knows : r.Knows v) : r'.Knows v :=
  fun h held => grows h (knows h held)

theorem Transition.grows (transition : r.Transition r') : r.Grows r' :=
  fun _ => transition.contains

theorem grows_of_run {σ : Type} {bodies : β → Value → List Value → Program β σ Value}
    {depth : Nat} {p : Program β σ α} {w w' : World β σ} {result : Except ObjectError α}
    (ends : p.run bodies depth w = some (result, w')) : w.realm.Grows w'.realm := fun h =>
  Program.run_keeps (P := fun s => s.heap.contains h = true)
    (fun s q => (s.perform_transition q).grows h) ends

theorem grows_of_visit {σ : Type} {bodies : β → Value → List Value → Program β σ Value}
    {depth : Nat} {p : Program β σ α} {w v : World β σ} (visited : p.visits bodies depth w v) :
    w.realm.Grows v.realm := fun h =>
  Program.visits_keeps (P := fun s => s.heap.contains h = true)
    (fun s q => (s.perform_transition q).grows h) visited

theorem knows_object {h : ObjectHandle} (live : r.heap.contains h = true) :
    r.Knows (.object h) := by
  rintro _ ⟨⟩
  exact live

theorem knows_of_no_object {v : Value} (noObject : v.asObject? = none) : r.Knows v := by
  rintro h rfl
  cases noObject

/-- The object that a value is, or another one if it is no object. -/
theorem Knows.contains_getD {v : Value} (known : r.Knows v) {h : ObjectHandle}
    (live : r.heap.contains h = true) : r.heap.contains (v.asObject?.getD h) = true := by
  cases v with
  | object k => exact known k rfl
  | _ => exact live

/-! ## Operations keep a realm closed -/

theorem Effect.closed (effect : r.Effect q r') (closed : r.Closed)
    (stored : ∀ k, q.stores k → r.heap.contains k = true) : r'.Closed where
  references h o' k live' refers := by
    have contains : r.heap.contains k = true → r'.heap.contains k = true :=
      effect.transition.contains
    obtain ⟨o, live, -, known⟩ | new := effect.object_inv closed.intrinsics live'
    · obtain old | asked := known k refers
      · exact contains (closed.references h o k live old)
      · exact contains (stored k asked)
    · obtain kLive | ⟨classTag, rfl⟩ := new k refers
      · exact kLive
      · exact contains (stored k rfl)
  intrinsics := effect.transition.intrinsicsLive closed.intrinsics
  accessors := effect.transition.accessorsCallable closed.accessors

theorem ofConfig_closed (config : RealmConfig) : (ofConfig config : Realm β).Closed where
  references := ofConfig_references config
  intrinsics := ofConfig_intrinsicsLive config
  accessors := ofConfig_accessorsCallable config

/-! ## What operations answer -/

/-- What an operation hands out: a result that satisfies the postcondition, or known values to the
body of a function, with the postcondition for whatever known value the body returns. -/
inductive Replies (r : Realm β) (Post : Except ObjectError α → Realm β → Prop) :
    Reply β α × Realm β → Prop where
  | done {result s} (holds : Post result s) : Replies r Post (.done result, s)
  | call {f function this args finish s} (registered : r.functions.get? f = some function)
      (receiver : r.Knows this) (known : ∀ a ∈ args, r.Knows a)
      (finishes : ∀ v s, s.Knows v → Post (.ok (finish v)) s) :
      Replies r Post (.call function.body this args finish, s)
  | exhausted {s} : Replies r Post (.exhausted, s)

theorem Replies.weaken {Post Post' : Except ObjectError α → Realm β → Prop}
    {answer : Reply β α × Realm β} (replies : r.Replies Post answer)
    (implies : ∀ result s, Post result s → Post' result s) : r.Replies Post' answer := by
  cases replies with
  | done holds => exact .done (implies _ _ holds)
  | call registered receiver known finishes =>
    exact .call registered receiver known fun v s knows => implies _ _ (finishes v s knows)
  | exhausted => exact .exhausted

/-- The result is a value as stated. -/
def Yields (Holds : α → Realm β → Prop) (result : Except ObjectError α) (s : Realm β) : Prop :=
  ∃ a, result = .ok a ∧ Holds a s

abbrev Succeeds : Except ObjectError α → Realm β → Prop := Yields fun _ _ => True

abbrev Reads : Except ObjectError Value → Realm β → Prop := Yields fun v s => s.Knows v

abbrev Allocates : Except ObjectError ObjectHandle → Realm β → Prop :=
  Yields fun h s => s.heap.contains h = true

/-! ### Adding objects -/

theorem alloc_replies (r : Realm β) (o : OrdinaryObject) :
    r.Replies (Yields fun h s => s.heap.get? h = some o) (r.alloc o) := by
  unfold alloc
  split
  · next h heap allocated =>
    have live : heap.get? h = some o := by rw [Heap.get?_alloc allocated, if_pos rfl]
    exact .done ⟨h, rfl, live⟩
  · exact .exhausted

theorem alloc_allocates (r : Realm β) (o : OrdinaryObject) : r.Replies Allocates (r.alloc o) :=
  (r.alloc_replies o).weaken fun _ _ ⟨h, answer, live⟩ =>
    ⟨h, answer, (Heap.contains_iff _ h).2 ⟨o, live⟩⟩

theorem createObject_allocates {prototype : Option ObjectHandle}
    (live : ∀ p, prototype = some p → r.heap.contains p = true) :
    r.Replies Allocates (r.createObject prototype) := by
  have accepted : prototype.filter (fun p => !r.heap.contains p) = none := by
    cases prototype with
    | none => rfl
    | some p => simp [live p rfl]
  rw [createObject, accepted]
  exact r.alloc_allocates _

theorem createFunction_allocates (r : Realm β) (name : String) (body : β) :
    r.Replies Allocates (r.createFunction name body) := by
  simp only [createFunction]
  split
  · exact .exhausted
  · next h heap function =>
    split
    · exact .exhausted
    · next p heap' prototype =>
      refine .done ⟨h, rfl, ?_⟩
      show (heap'.modify h _).contains h = true
      rw [Heap.contains_modify, Heap.contains_alloc prototype, Heap.contains_alloc function]
      exact .inr (.inl rfl)

/-! ### Calling, reading and writing -/

theorem call_replies {f : ObjectHandle} {this : Value} {args : List Value}
    (live : r.heap.contains f = true) (receiver : r.Knows this)
    (known : ∀ a ∈ args, r.Knows a) :
    r.Replies (fun result s => Reads result s ∨ result = .error (.notCallable f))
      (r.call f this args id, r) := by
  rw [call]
  split
  · next function registered =>
    exact .call registered receiver known fun v s knows => .inl ⟨v, rfl, knows⟩
  · have error : r.callError f = .notCallable f := by rw [callError, live, if_pos rfl]
    rw [error]
    exact .done (.inr rfl)

theorem Closed.get_reads (closed : r.Closed) {object : ObjectHandle}
    (live : r.heap.contains object = true) (key : PropertyKey) {receiver : Value}
    (known : r.Knows receiver) : r.Replies Reads (r.get object key receiver) := by
  obtain ⟨o, objectLive⟩ := (Heap.contains_iff _ _).1 live
  have step := r.get_cases object key receiver
  generalize r.get object key receiver = answer at step ⊢
  cases step with
  | missing fails =>
    obtain ⟨lookup, ends⟩ := Heap.findProperty_of_live objectLive key r.maxHops
    rw [fails] at ends
    cases ends
  | @data owner value w e c ends =>
    obtain ⟨⟨p, ownerLive, owned⟩, -⟩ := Heap.findProperty_found ends rfl
    refine .done ⟨value, rfl, fun h held => ?_⟩
    exact closed.references owner p h ownerLive
      (.inr ⟨key, _, owned, PropertyDescriptor.refersTo_data.2 held⟩)
  | getter ends =>
    obtain ⟨function, registered⟩ := call_of_calls closed.accessors ends (.inl rfl)
    rw [call, registered]
    exact .call registered known (by simp) fun v s knows => ⟨v, rfl, knows⟩
  | noGetter | absent => exact .done ⟨.undefined, rfl, knows_of_no_object rfl⟩

theorem Closed.put_succeeds (closed : r.Closed) {object : ObjectHandle}
    (live : r.heap.contains object = true) (key : PropertyKey) {value receiver : Value}
    (known : r.Knows value) (receives : r.Knows receiver) :
    r.Replies Succeeds (r.put object key value receiver) := by
  obtain ⟨o, objectLive⟩ := (Heap.contains_iff _ _).1 live
  obtain ⟨⟨⟩, r', answered⟩ | ⟨owner, p, setter, function, -, -, registered, answered⟩ :=
    put_answers objectLive closed.accessors key value receiver
  · rw [answered]
    exact .done ⟨(), rfl, trivial⟩
  · rw [answered]
    exact .call registered receives (by simpa using known) fun _ _ _ => ⟨(), rfl, trivial⟩

/-! ### Other operations on one object -/

theorem define_replies (r : Realm β) (object : ObjectHandle) (key : PropertyKey)
    (fields : DescriptorFields) : r.Replies (fun _ _ => True) (r.define object key fields) := by
  unfold define
  split
  · exact .done trivial
  · split
    · exact .done trivial
    · split <;> exact .done trivial

theorem delete_succeeds {object : ObjectHandle} (live : r.heap.contains object = true)
    (key : PropertyKey) : r.Replies Succeeds (r.delete object key) := by
  obtain ⟨o, objectLive⟩ := (Heap.contains_iff _ _).1 live
  rw [delete, Heap.get_of_live objectLive]
  exact .done ⟨_, rfl, trivial⟩

theorem enumerateKeys_succeeds {object : ObjectHandle} (live : r.heap.contains object = true) :
    r.Replies Succeeds (r.enumerateKeys object) := by
  obtain ⟨o, objectLive⟩ := (Heap.contains_iff _ _).1 live
  rw [enumerateKeys, Heap.enumerateKeys, Heap.walk, Heap.walkUntil, Heap.get_of_live objectLive]
  exact .done ⟨_, rfl, trivial⟩

theorem setPrototype_succeeds {object : ObjectHandle} {prototype : Option ObjectHandle}
    (live : r.heap.contains object = true)
    (exists_ : ∀ p, prototype = some p → r.heap.contains p = true) :
    r.Replies Succeeds (r.setPrototype object prototype) := by
  obtain ⟨o, objectLive⟩ := (Heap.contains_iff _ _).1 live
  obtain ⟨answer, heap, accepted⟩ := Heap.setPrototype_of_live objectLive exists_
  rw [setPrototype, accepted]
  exact .done ⟨answer, rfl, trivial⟩

/-! ### Object initialisers -/

def OpenAt (r : Realm β) (h : ObjectHandle) : Prop := ∃ o, r.heap.get? h = some o ∧ o.IsOpen

theorem OpenAt.contains {h : ObjectHandle} (isOpen : r.OpenAt h) : r.heap.contains h = true := by
  obtain ⟨o, live, -⟩ := isOpen
  exact (Heap.contains_iff _ _).2 ⟨o, live⟩

theorem newObject_opens (r : Realm β) :
    r.Replies (Yields fun h s => s.OpenAt h) r.newObject :=
  (r.alloc_replies _).weaken fun _ _ ⟨h, answer, live⟩ =>
    ⟨h, answer, _, live, OrdinaryObject.isOpen_tagged _ _⟩

/-- Defining a configurable property on an open object fails for its functions alone. -/
theorem define_on_open {object : ObjectHandle} (isOpen : r.OpenAt object) (key : PropertyKey)
    {fields : DescriptorFields} {kind : DescriptorKind} (shape : fields.classify = .ok kind)
    (configurable : fields.configurable = some true) :
    r.Replies (fun result s => (Succeeds result s ∧ s.OpenAt object) ∨
      ∃ f, result = .error (.notCallable f)) (r.define object key fields) := by
  obtain ⟨o, live, isOpen⟩ := isOpen
  obtain ⟨outcome, o', accepted⟩ := isOpen.define_accepted shape key
  rw [define, Heap.get_of_live live]
  dsimp only
  split
  · next f missing => exact .done (.inr ⟨f, rfl⟩)
  · rw [accepted]
    have live' : (r.heap.modify object fun _ => o').get? object = some o' :=
      Heap.get?_replace_self live o'
    exact .done (.inl ⟨⟨outcome, rfl, trivial⟩, o', live', isOpen.define configurable accepted⟩)

end Realm

end ObjectModel
