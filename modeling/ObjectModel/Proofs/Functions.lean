import ObjectModel.Proofs.Callability

/-!
# Functions and their objects

The table of functions and the `callable` flags of objects say the same: a handle is in the table
exactly if it is that of a live object with the flag (`Reachable.functionsFlagged`).  Together with
`Reachable.accessorsCallable` this leaves one way for reading or writing a property of a live object
to fail, which is that the body of a getter or setter fails (`property_access_fails_as_accessor`).
-/

namespace ObjectModel

variable {β : Type}

namespace Realm

variable {r r' : Realm β} {o o' : OrdinaryObject}

/-! ## The table and the flags -/

/-- The functions of the realm are the live objects with the flag. -/
def FunctionsFlagged (r : Realm β) : Prop :=
  ∀ h, r.isCallable h = true ↔ ∃ o, r.heap.get? h = some o ∧ o.callable = true

theorem Edit.callable_eq (edited : r.Edit o o') : o'.callable = o.callable := by
  cases edited with
  | define callable accepted =>
    obtain ⟨kind, properties, shape, rfl, -⟩ := OrdinaryObject.define_inv accepted
    rfl
  | _ => rfl

theorem isCallable_insert (r : Realm β) (function h : ObjectHandle) (f : HostFunction β)
    (heap : Heap) :
    ({ r with heap, functions := r.functions.insert function f } : Realm β).isCallable h = true ↔
      h = function ∨ r.isCallable h = true := by
  rw [isCallable, isCallable, OrderedMap.contains, OrderedMap.contains, OrderedMap.get?_insert]
  by_cases same : function = h
  · simp [same]
  · simp [same, Ne.symm same]

/-- An object without the flag, under a handle that was not in use. -/
theorem FunctionsFlagged.alloc (before : r.FunctionsFlagged) {h : ObjectHandle} {heap : Heap}
    (allocated : r.heap.alloc? o = some (h, heap)) (plain : o.callable = false) :
    ({ r with heap } : Realm β).FunctionsFlagged := by
  intro k
  show r.isCallable k = true ↔ _
  rw [before k, Heap.get?_alloc allocated]
  by_cases same : k = h
  · subst same
    simp [Heap.get?_of_alloc allocated, plain]
  · rw [if_neg same]

theorem Transition.functionsFlagged (transition : r.Transition r')
    (before : r.FunctionsFlagged) : r'.FunctionsFlagged := by
  cases transition with
  | quiet => exact before
  | @edit k o o' events live edited =>
    intro h
    show r.isCallable h = true ↔ _
    rw [before h]
    by_cases same : h = k
    · subst same
      simp [Heap.get?_replace_self live, live, edited.callable_eq]
    · rw [Heap.get?_replace_of_ne same]
  | alloc allocated => exact before.alloc allocated rfl
  | @createFunction k p heap heap' name body function prototype =>
    intro h
    rw [isCallable_insert, before h]
    have kLive : heap'.get? k = some r.newFunction :=
      Heap.get?_alloc_of_live prototype (by rw [Heap.get?_alloc function, if_pos rfl])
    by_cases same : h = k
    · subst same
      simp only [true_or, Heap.get?_replace_self kLive, Option.some.injEq, exists_eq_left',
        true_iff]
      rfl
    · -- the other new object is the `prototype` of the function, and has no flag
      rw [Heap.get?_replace_of_ne same, Heap.get?_alloc prototype, Heap.get?_alloc function,
        if_neg same, or_iff_right same]
      by_cases fresh : h = p
      · subst fresh
        have missing : r.heap.get? h = none := by
          have unused := Heap.get?_of_alloc prototype
          rwa [Heap.get?_alloc function, if_neg same] at unused
        rw [if_pos rfl, missing]
        simp [newPrototype, OrdinaryObject.tagged, OrdinaryObject.setOwn]
      · rw [if_neg fresh]

theorem intrinsics_not_callable :
    Intrinsics.heap.objects.toList.all (!·.callable) = true := by
  decide

theorem ofConfig_functionsFlagged (config : RealmConfig) :
    (ofConfig config : Realm β).FunctionsFlagged := by
  intro h
  constructor
  · intro callable
    cases callable
  · rintro ⟨o, live, flag⟩
    have plain := Heap.forall_of_all intrinsics_not_callable live
    rw [flag] at plain
    cases plain

theorem Reachable.functionsFlagged (reachable : r.Reachable) : r.FunctionsFlagged :=
  reachable.invariant (fun transition => transition.functionsFlagged) ofConfig_functionsFlagged

/-! ## Reading and writing -/

theorem call_of_calls (callable : r.AccessorsCallable) {object : ObjectHandle}
    {key : PropertyKey} {maxHops : Nat} {owner f : ObjectHandle} {p : PropertyDescriptor}
    (ends : r.heap.findProperty object key maxHops = .ok ⟨some (owner, p), none⟩)
    (calls : p.calls f) : ∃ function, r.functions.get? f = some function := by
  obtain ⟨⟨o, live, owned⟩, -⟩ := Heap.findProperty_found ends rfl
  exact Option.isSome_iff_exists.1 (callable owner o live key p f owned calls)

/-- What an operation on a property answers: a value at once, or whatever the accessor function that
it selects from the property it finds comes to. -/
def AnswersAsAccessor {α : Type} (r : Realm β) (object : ObjectHandle) (key : PropertyKey)
    (accessor? : PropertyDescriptor → Option ObjectHandle) (receiver : Value) (args : List Value)
    (finish : Value → α) (answer : Reply β α × Realm β) : Prop :=
  (∃ a r', answer = (.done (.ok a), r')) ∨
    ∃ owner p f function,
      r.heap.findProperty object key r.maxHops = .ok ⟨some (owner, p), none⟩ ∧
      accessor? p = some f ∧ r.functions.get? f = some function ∧
      answer = (.call function.body receiver args finish, r)

section Live

variable {object : ObjectHandle} (live : r.heap.get? object = some o)

include live

theorem get_answers (callable : r.AccessorsCallable) (key : PropertyKey) (receiver : Value) :
    r.AnswersAsAccessor object key PropertyDescriptor.getter? receiver [] id
      (r.get object key receiver) := by
  have step := r.get_cases object key receiver
  generalize r.get object key receiver = answer at step ⊢
  cases step with
  | missing fails =>
    obtain ⟨lookup, ends⟩ := Heap.findProperty_of_live live key r.maxHops
    rw [fails] at ends
    cases ends
  | data | noGetter | absent => exact .inl ⟨_, _, rfl⟩
  | @getter owner getter set e c ends =>
    obtain ⟨function, registered⟩ := call_of_calls callable ends (.inl rfl)
    exact .inr ⟨owner, _, getter, function, ends, rfl, registered, by rw [call, registered]⟩

theorem put_answers (callable : r.AccessorsCallable) (key : PropertyKey)
    (value receiver : Value) :
    r.AnswersAsAccessor object key PropertyDescriptor.setter? receiver [value] (fun _ => ())
      (r.put object key value receiver) := by
  have step := r.put_cases object key value receiver
  generalize r.put object key value receiver = answer at step ⊢
  cases step with
  | missing fails =>
    obtain ⟨lookup, ends⟩ := Heap.findProperty_of_live live key r.maxHops
    rw [fails] at ends
    cases ends
  | noSetter | nonWritable | write | add | closed => exact .inl ⟨_, _, rfl⟩
  | @setter owner get setter e c ends =>
    obtain ⟨function, registered⟩ := call_of_calls callable ends (.inr rfl)
    exact .inr ⟨owner, _, setter, function, ends, rfl, registered, by rw [call, registered]⟩

theorem has_answers (key : PropertyKey) :
    ∃ present r', r.has object key = (.done (.ok present), r') := by
  obtain ⟨lookup, ends⟩ := Heap.findProperty_of_live live key r.maxHops
  rw [has, ends]
  exact ⟨_, _, rfl⟩

end Live

/-- A run of the operation ends with a value at once, or as a run of the body of the selected
accessor function does: with its error, or with what becomes of its value. -/
theorem AnswersAsAccessor.run {q : Request β} {object : ObjectHandle} {key : PropertyKey}
    {accessor? : PropertyDescriptor → Option ObjectHandle} {receiver : Value} {args : List Value}
    {finish : Value → q.Answer}
    (answers : r.AnswersAsAccessor object key accessor? receiver args finish (r.perform q))
    {σ : Type} (bodies : β → Value → List Value → Program β σ Value) (depth : Nat) (state : σ) :
    (∃ a w, (Program.request q).run bodies depth ⟨r, state⟩ = some (.ok a, w)) ∨
      ∃ owner p f function,
        r.heap.findProperty object key r.maxHops = .ok ⟨some (owner, p), none⟩ ∧
        accessor? p = some f ∧ r.functions.get? f = some function ∧
        (Program.request q).run bodies depth ⟨r, state⟩ =
          (Program.runBody bodies depth function.body receiver args ⟨r, state⟩).map
            fun (result, w) => (result.map finish, w) := by
  obtain ⟨a, r', answered⟩ | ⟨owner, p, f, function, ends, selected, registered, answered⟩ :=
    answers
  · exact .inl ⟨a, _, Program.run_request_done answered bodies depth state⟩
  · exact .inr ⟨owner, p, f, function, ends, selected, registered,
      Program.run_request_call answered bodies depth state⟩

/-- In a reachable realm the functions are the live objects with the flag and all getters and
setters are functions.  So reading, writing or asking for a property of a live object has no error
of its own: it ends with a value, or as the body of the getter or setter ends that it calls. -/
theorem property_access_fails_as_accessor (reachable : r.Reachable) :
    (∀ h o, r.heap.get? h = some o → (o.callable = true ↔ r.isCallable h = true)) ∧
      (∀ h, r.isCallable h = true → ∃ o, r.heap.get? h = some o) ∧
      (∀ h o key p f, r.heap.get? h = some o → o.getOwn? key = some p → p.calls f →
        r.isCallable f = true) ∧
      ∀ object o, r.heap.get? object = some o → ∀ (key : PropertyKey) (value receiver : Value)
        {σ : Type} (bodies : β → Value → List Value → Program β σ Value) depth state,
        ((∃ v w, (Program.get object key receiver).run bodies depth ⟨r, state⟩ =
            some (.ok v, w)) ∨
          ∃ owner p getter function,
            r.heap.findProperty object key r.maxHops = .ok ⟨some (owner, p), none⟩ ∧
            p.getter? = some getter ∧ r.functions.get? getter = some function ∧
            (Program.get object key receiver).run bodies depth ⟨r, state⟩ =
              (Program.runBody bodies depth function.body receiver [] ⟨r, state⟩).map
                fun (result, w) => (result.map id, w)) ∧
        ((∃ w, (Program.put object key value receiver).run bodies depth ⟨r, state⟩ =
            some (.ok (), w)) ∨
          ∃ owner p setter function,
            r.heap.findProperty object key r.maxHops = .ok ⟨some (owner, p), none⟩ ∧
            p.setter? = some setter ∧ r.functions.get? setter = some function ∧
            (Program.put object key value receiver).run bodies depth ⟨r, state⟩ =
              (Program.runBody bodies depth function.body receiver [value] ⟨r, state⟩).map
                fun (result, w) => (result.map fun _ => (), w)) ∧
        ∃ present w, (Program.has object key).run bodies depth ⟨r, state⟩ =
          some (.ok present, w) := by
  have flagged := reachable.functionsFlagged
  have callable := reachable.accessorsCallable
  refine ⟨?_, ?_, fun h o key p f live owned calls => callable h o live key p f owned calls, ?_⟩
  · intro h o live
    rw [flagged h]
    exact ⟨fun flag => ⟨o, live, flag⟩, fun ⟨o', live', flag⟩ => by
      rw [live] at live'
      cases live'
      exact flag⟩
  · intro h registered
    obtain ⟨o, live, -⟩ := (flagged h).1 registered
    exact ⟨o, live⟩
  · intro object o live key value receiver σ bodies depth state
    refine ⟨?_, ?_, ?_⟩
    · exact AnswersAsAccessor.run (q := .get object key receiver)
        (get_answers live callable key receiver) bodies depth state
    · obtain ⟨⟨⟩, written⟩ | called := AnswersAsAccessor.run (q := .put object key value receiver)
        (put_answers live callable key value receiver) bodies depth state
      · exact .inl written
      · exact .inr called
    · obtain ⟨present, r', answered⟩ := has_answers live key
      exact ⟨present, _,
        Program.run_request_done (q := .has object key) answered bodies depth state⟩

/-- An object whose getter fails: reading the property fails with the error of the body, reading
another one does not fail. -/
theorem failing_getter_fails_as_itself :
    let r : Realm Unit := ((((ofConfig {}).perform (.createFunction "f" ())).2.perform
      .newObject).2.perform (.define ⟨7⟩ ⟨"x"⟩ { get := some (some ⟨5⟩) })).2
    let bodies : Unit → Value → List Value → Program Unit Unit Value :=
      fun _ _ _ => throw (.typeError "no")
    r.isCallable ⟨5⟩ = true ∧
      (Program.get ⟨7⟩ ⟨"x"⟩ .null).run bodies 1 ⟨r, ()⟩ =
        some (.error (.typeError "no"), ⟨r, ()⟩) ∧
      ∃ v w, (Program.get ⟨7⟩ ⟨"y"⟩ .null).run bodies 1 ⟨r, ()⟩ = some (.ok v, w) := by
  intro r bodies
  have reachable : r.Reachable :=
    ⟨{}, ofConfig {}, rfl, .perform (.perform (.perform .refl _) _) _⟩
  obtain ⟨o, live⟩ : ∃ o, r.heap.get? ⟨7⟩ = some o := ⟨_, rfl⟩
  obtain ⟨f, fLive, flag⟩ : ∃ f, r.heap.get? ⟨5⟩ = some f ∧ f.callable = true := ⟨_, rfl, rfl⟩
  obtain ⟨flagged, -, -, access⟩ := property_access_fails_as_accessor reachable
  have atY : r.heap.findProperty ⟨7⟩ ⟨"y"⟩ r.maxHops = .ok ⟨none, none⟩ := rfl
  refine ⟨(flagged _ _ fLive).1 flag, ?_, ?_⟩
  · obtain ⟨v, w, ended⟩ | ⟨owner, p, getter, function, ends, selected, registered, ended⟩ :=
      (access ⟨7⟩ o live ⟨"x"⟩ .null .null bodies 1 ()).1
    · cases ended
    · rw [ended]
      rfl
  · obtain ⟨v, w, ended⟩ | ⟨owner, p, getter, function, ends, selected, registered, ended⟩ :=
      (access ⟨7⟩ o live ⟨"y"⟩ .null .null bodies 1 ()).1
    · exact ⟨v, w, ended⟩
    · rw [atY] at ends
      cases ends

end Realm

end ObjectModel
