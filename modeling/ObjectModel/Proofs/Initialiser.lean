import ObjectModel.Proofs.ClosedWorld

/-!
# What an object initialiser evaluates to

The entries of one key decide what becomes of it.  Reading them from the last one back
(`ObjectLiteral.latest`), a data entry makes the whole property, and accessor entries make an
accessor of the functions named since the last data entry (`LiteralEntry.property?`).

`Evaluates` says that a table holds just these properties.  One more entry goes through a whole
reconciliation and keeps it (`Evaluates.define`): all properties are configurable in between, so
what the entry defines (`LiteralEntry.onto`) depends only on the property that the entries before
it come to.
-/

namespace ObjectModel

namespace LiteralEntry

def isData : LiteralEntry → Bool
  | data .. => true
  | getter .. | setter .. => false

def getter? : LiteralEntry → Option ObjectHandle
  | getter _ function => some function
  | data .. | setter .. => none

def setter? : LiteralEntry → Option ObjectHandle
  | setter _ function => some function
  | data .. | getter .. => none

/-- The function that the entry names. -/
def function? : LiteralEntry → Option ObjectHandle
  | getter _ function | setter _ function => some function
  | data .. => none

/-! ## The entries of one key -/

/-- The property that the entries of one key come to, the last entry first. -/
def property? : List LiteralEntry → Option PropertyDescriptor
  | [] => none
  | data _ value :: _ => some (.openData value)
  | entries =>
    let since := entries.takeWhile (!·.isData)
    some (.accessor (since.findSome? getter?) (since.findSome? setter?) true true)

/-- The property that the entry defines when a property is there already. -/
def onto (entry : LiteralEntry) (current : Option PropertyDescriptor) : PropertyDescriptor :=
  match entry with
  | data _ value => .openData value
  | getter .. | setter .. =>
    .accessor (entry.getter?.or (current.bind PropertyDescriptor.getter?))
      (entry.setter?.or (current.bind PropertyDescriptor.setter?)) true true

theorem functions_of_property? (entries : List LiteralEntry) :
    (property? entries).bind PropertyDescriptor.getter? =
        (entries.takeWhile (!·.isData)).findSome? getter? ∧
      (property? entries).bind PropertyDescriptor.setter? =
        (entries.takeWhile (!·.isData)).findSome? setter? := by
  cases entries with
  | nil => exact ⟨rfl, rfl⟩
  | cons entry earlier => cases entry <;> exact ⟨rfl, rfl⟩

/-- A later entry goes onto what the earlier ones come to. -/
theorem property?_cons (entry : LiteralEntry) (earlier : List LiteralEntry) :
    property? (entry :: earlier) = some (entry.onto (property? earlier)) := by
  obtain ⟨getters, setters⟩ := functions_of_property? earlier
  cases entry with
  | data key value => rfl
  | getter key function =>
    show some (PropertyDescriptor.accessor (some function)
      ((earlier.takeWhile (!·.isData)).findSome? setter?) true true) = _
    rw [← setters]
    rfl
  | setter key function =>
    show some (PropertyDescriptor.accessor ((earlier.takeWhile (!·.isData)).findSome? getter?)
      (some function) true true) = _
    rw [← getters]
    rfl

section Define

variable {kind : DescriptorKind} {entry : LiteralEntry}

theorem toNewDescriptor_toFields (shape : entry.toFields.classify = .ok kind) :
    entry.toFields.toNewDescriptor kind = entry.onto none := by
  cases entry <;> cases shape <;> rfl

theorem merge_toFields (shape : entry.toFields.classify = .ok kind)
    (current : PropertyDescriptor) :
    current.merge entry.toFields kind = entry.onto (some current) := by
  cases entry <;> cases shape <;> cases current <;> rfl

end Define

theorem onto_of_sameAs (entry : LiteralEntry) {p q : PropertyDescriptor}
    (same : p.sameAs q = true) : entry.onto (some p) = entry.onto (some q) := by
  have functions : p.getter? = q.getter? ∧ p.setter? = q.setter? := by
    cases p <;> cases q <;>
      simp_all [PropertyDescriptor.sameAs, PropertyDescriptor.getter?, PropertyDescriptor.setter?]
  cases entry <;> simp only [onto, Option.bind_some, functions.1, functions.2]

end LiteralEntry

namespace ObjectLiteral

open LiteralEntry

/-- The entries of a key, the last one first. -/
def latest (entries : List LiteralEntry) (key : PropertyKey) : List LiteralEntry :=
  (entries.filter (·.key = key)).reverse

theorem latest_append (entries : List LiteralEntry) (entry : LiteralEntry) (key : PropertyKey) :
    latest (entries ++ [entry]) key =
      if entry.key = key then entry :: latest entries key else latest entries key := by
  by_cases this : entry.key = key <;> simp [latest, this]

/-- The table holds what the entries come to, with the keys in the order of their first entries.
Values are compared by `Value.sameValue`, which leaves open only which not-a-number is held: an
entry does not replace one by another. -/
structure Evaluates (entries : List LiteralEntry) (t : PropertyTable) : Prop where
  keys : t.keys = (entries.map LiteralEntry.key).eraseDups
  properties : ∀ key, Option.Rel (fun p q => p.sameAs q = true) (t.get? key)
    (property? (latest entries key))

theorem evaluates_nil : Evaluates [] .empty where
  keys := rfl
  properties _ := .none

/-- An entry adds its key to those that are there, unless it is one of them. -/
theorem eraseDups_append_key (keys : List PropertyKey) (key : PropertyKey) :
    (keys ++ [key]).eraseDups =
      if key ∈ keys.eraseDups then keys.eraseDups else keys.eraseDups ++ [key] := by
  rw [List.eraseDups_append]
  by_cases there : key ∈ keys <;> simp [List.removeAll, there, List.eraseDups_cons]

section Step

variable {entries : List LiteralEntry} {entry : LiteralEntry} {t t' : PropertyTable}

theorem Evaluates.insert {p : PropertyDescriptor} (evaluates : Evaluates entries t)
    (same : p.sameAs (entry.onto (property? (latest entries entry.key))) = true) :
    Evaluates (entries ++ [entry]) (t.insert entry.key p) where
  keys := by
    rw [OrderedMap.keys_insert, List.map_append, List.map_singleton, eraseDups_append_key,
      evaluates.keys]
  properties key := by
    rw [OrderedMap.get?_insert, latest_append]
    split
    · next this =>
      subst this
      rw [property?_cons]
      exact .some same
    · exact evaluates.properties key

/-- What was there stays because the entry asks for it again. -/
theorem Evaluates.keep {p : PropertyDescriptor} (evaluates : Evaluates entries t)
    (present : t.get? entry.key = some p)
    (same : p.sameAs (entry.onto (property? (latest entries entry.key))) = true) :
    Evaluates (entries ++ [entry]) t where
  keys := by
    have member : entry.key ∈ t.keys := (OrderedMap.mem_keys_iff t entry.key).2 ⟨p, present⟩
    rw [evaluates.keys] at member
    rw [List.map_append, List.map_singleton, eraseDups_append_key, if_pos member, evaluates.keys]
  properties key := by
    rw [latest_append]
    split
    · next this =>
      subst this
      rw [property?_cons, present]
      exact .some same
    · exact evaluates.properties key

theorem Evaluates.define {extensible : Bool} {kind : DescriptorKind} {outcome : DefineOutcome}
    (evaluates : Evaluates entries t) (shape : entry.toFields.classify = .ok kind)
    (changed : t.Defined extensible entry.key entry.toFields kind outcome t') :
    Evaluates (entries ++ [entry]) t' := by
  have before := evaluates.properties entry.key
  generalize known : property? (latest entries entry.key) = described at before
  cases changed with
  | created absent free =>
    rw [absent] at before
    cases before
    refine evaluates.insert ?_
    rw [known, toNewDescriptor_toFields shape]
    exact PropertyDescriptor.sameAs_refl _
  | @unchanged current present admitted same =>
    rw [present] at before
    cases before with
    | some agrees =>
      -- what the entry asks for is there already, so it is the property that is there that counts
      rw [merge_toFields shape, PropertyDescriptor.sameAs_comm, onto_of_sameAs entry agrees] at same
      exact evaluates.keep present (known ▸ same)
  | @updated current present admitted differs =>
    rw [present] at before
    cases before with
    | some agrees =>
      refine evaluates.insert ?_
      rw [known, merge_toFields shape, onto_of_sameAs entry agrees]
      exact PropertyDescriptor.sameAs_refl _

end Step

/-! ## Runs -/

variable {β σ : Type} {r : Realm β} {object : ObjectHandle} {o : OrdinaryObject}
  {entry : LiteralEntry}

/-- The first function that the entries name and that cannot be called. -/
def uncallable? (r : Realm β) (entries : List LiteralEntry) : Option ObjectHandle :=
  (entries.filterMap LiteralEntry.function?).find? fun f => !r.isCallable f

theorem accessorFunctions_toFields (entry : LiteralEntry) :
    entry.toFields.accessorFunctions = entry.function?.toList := by
  cases entry <;> rfl

theorem uncallable?_cons (r : Realm β) (entry : LiteralEntry) (rest : List LiteralEntry) :
    uncallable? r (entry :: rest) =
      (entry.toFields.accessorFunctions.find? fun f => !r.isCallable f).or
        (uncallable? r rest) := by
  rw [accessorFunctions_toFields]
  cases named : entry.function? with
  | none => simp [uncallable?, named]
  | some f => cases callable : r.isCallable f <;> simp [uncallable?, named, callable]

theorem uncallable?_congr {r r' : Realm β} (functions : r'.functions = r.functions)
    (entries : List LiteralEntry) : uncallable? r' entries = uncallable? r entries := by
  simp only [uncallable?, Realm.isCallable, functions]

/-- An entry with a function that cannot be called is refused. -/
theorem define_entry_refused (live : r.heap.get? object = some o) {f : ObjectHandle}
    (refused : entry.toFields.accessorFunctions.find? (fun f => !r.isCallable f) = some f) :
    ∃ r', r.define object entry.key entry.toFields = (.done (.error (.notCallable f)), r') ∧
      r'.heap = r.heap := by
  rw [Realm.define, Heap.get_of_live live]
  simp only [refused]
  exact ⟨_, rfl, rfl⟩

/-- Any other entry is defined on an open object. -/
theorem define_entry_accepted (live : r.heap.get? object = some o) (isOpen : o.IsOpen)
    (callable : entry.toFields.accessorFunctions.find? (fun f => !r.isCallable f) = none)
    {before : List LiteralEntry} (evaluates : Evaluates before o.properties) :
    ∃ outcome properties r', r.define object entry.key entry.toFields = (.done (.ok outcome), r') ∧
      r'.functions = r.functions ∧
      r'.heap = r.heap.modify object (fun _ => { o with properties }) ∧
      OrdinaryObject.IsOpen { o with properties } ∧ Evaluates (before ++ [entry]) properties := by
  obtain ⟨_, shape⟩ := entry.toFields_classify
  obtain ⟨outcome, o', accepted⟩ := isOpen.define_accepted shape entry.key
  have stillOpen := isOpen.define entry.toFields_configurable accepted
  obtain ⟨kind, properties, shape, rfl, changed⟩ := OrdinaryObject.define_inv accepted
  exact ⟨outcome, properties, _, Realm.define_of_accepted live callable accepted, rfl, rfl,
    stillOpen, evaluates.define shape changed⟩

theorem run_newObject (r : Realm β) (bodies : β → Value → List Value → Program β σ Value)
    (depth : Nat) (state : σ) :
    (Program.newObject : Program β σ _).run bodies depth ⟨r, state⟩ =
      (r.heap.alloc? (.tagged (some r.intrinsics.objectPrototype) "Object")).map
        fun made => (.ok made.1, ⟨{ r with heap := made.2 }, state⟩) :=
  Program.run_request_alloc (q := .newObject) id rfl bodies depth state

/-- Entries are defined one after the other, up to the first that is refused. -/
theorem applyEntries_run (bodies : β → Value → List Value → Program β σ Value) (depth : Nat)
    (state : σ) (entries : List LiteralEntry) {before : List LiteralEntry}
    (live : r.heap.get? object = some o) (isOpen : o.IsOpen)
    (evaluates : Evaluates before o.properties) :
    ∃ result r', (applyEntries object entries).run bodies depth ⟨r, state⟩ =
        some (result, ⟨r', state⟩) ∧
      (∀ h, h ≠ object → r'.heap.get? h = r.heap.get? h) ∧
      match uncallable? r entries with
      | some f => result = .error (.notCallable f)
      | none => result = .ok () ∧ ∃ properties,
        r'.heap.get? object = some { o with properties } ∧
          Evaluates (before ++ entries) properties := by
  -- the entries that are done move into the table, which stays that of an open object
  induction entries generalizing r o before with
  | nil =>
    refine ⟨_, r, rfl, fun _ _ => rfl, rfl, o.properties, live, ?_⟩
    rwa [List.append_nil]
  | cons entry rest ih =>
    show ∃ result r', ((Program.define object entry.key entry.toFields).andThen fun _ =>
      applyEntries object rest).run bodies depth ⟨r, state⟩ = some (result, ⟨r', state⟩) ∧ _
    simp only [Program.run_andThen, uncallable?_cons]
    cases refused : entry.toFields.accessorFunctions.find? (fun f => !r.isCallable f) with
    | some f =>
      obtain ⟨r', answered, sameHeap⟩ := define_entry_refused live refused
      -- the error ends the run, and the rest of the entries does not matter
      refine ⟨.error (.notCallable f), r', ?_, fun _ _ => by rw [sameHeap], rfl⟩
      rw [Program.run_define answered]
      rfl
    | none =>
      obtain ⟨outcome, properties, r', answered, functions, sameHeap, stillOpen, evaluates⟩ :=
        define_entry_accepted live isOpen refused evaluates
      have live' : r'.heap.get? object = some { o with properties } := by
        rw [sameHeap]
        exact Heap.get?_replace_self live _
      obtain ⟨result, r'', ran, others, post⟩ := ih live' stillOpen evaluates
      refine ⟨result, r'', ?_, fun h other => ?_, ?_⟩
      · rw [Program.run_define answered]
        exact ran
      · rw [others h other, sameHeap, Heap.get?_replace_of_ne other]
      · rwa [uncallable?_congr functions, List.append_assoc] at post

/-- What an object initialiser comes to in any realm.  If all functions that it names can be
called, it makes a new plain object whose properties are those that the entries of each key come
to; otherwise it fails with the first function that cannot be called.  Nothing that was there
changes.  The only other end is that the heap has no handle left. -/
theorem initialiser_evaluates (literal : ObjectLiteral)
    (bodies : β → Value → List Value → Program β σ Value) (depth : Nat) (r : Realm β) (state : σ) :
    match literal.build.run bodies depth ⟨r, state⟩ with
    | none => r.heap.size = 2 ^ 32
    | some (result, w) =>
      w.host = state ∧ (∀ h o, r.heap.get? h = some o → w.realm.heap.get? h = some o) ∧
      match uncallable? r literal.entries with
      | some f => result = .error (.notCallable f)
      | none => ∃ object properties, result = .ok object ∧ r.heap.get? object = none ∧
        w.realm.heap.get? object = some
          { OrdinaryObject.tagged (some r.intrinsics.objectPrototype) "Object" with properties } ∧
        Evaluates literal.entries properties := by
  show match ((Program.newObject : Program β σ _).andThen fun object =>
    (applyEntries object literal.entries).andThen fun _ => .done (.ok object)).run bodies depth
      ⟨r, state⟩ with
    | none => _
    | some (result, w) => _
  rw [Program.run_andThen, run_newObject]
  cases allocated : r.heap.alloc? (.tagged (some r.intrinsics.objectPrototype) "Object") with
  | none => exact Heap.size_of_alloc?_eq_none allocated
  | some found =>
    obtain ⟨object, heap⟩ := found
    have live : heap.get? object = some (.tagged (some r.intrinsics.objectPrototype) "Object") := by
      rw [Heap.get?_alloc allocated, if_pos rfl]
    have fresh : r.heap.get? object = none := Heap.get?_of_alloc allocated
    obtain ⟨result, r', ran, others, post⟩ := applyEntries_run bodies depth state literal.entries
      (r := { r with heap }) live (OrdinaryObject.isOpen_tagged _ _) evaluates_nil
    have kept : ∀ h o, r.heap.get? h = some o → r'.heap.get? h = some o := by
      intro h o there
      -- the entries change the new object alone, and its handle was free
      have other : h ≠ object := by
        rintro rfl
        rw [fresh] at there
        cases there
      rw [others h other]
      exact Heap.get?_alloc_of_live allocated there
    have sameFunctions : uncallable? { r with heap } literal.entries =
        uncallable? r literal.entries := uncallable?_congr rfl literal.entries
    rw [sameFunctions] at post
    simp only [Option.map_some, Option.bind_some, Program.run_andThen, ran]
    cases uncallable : uncallable? r literal.entries with
    | some f =>
      rw [uncallable] at post
      subst post
      exact ⟨rfl, kept, rfl⟩
    | none =>
      rw [uncallable] at post
      obtain ⟨rfl, properties, evaluated, evaluates⟩ := post
      exact ⟨rfl, kept, object, properties, rfl, fresh, evaluated, evaluates⟩

end ObjectLiteral

end ObjectModel
