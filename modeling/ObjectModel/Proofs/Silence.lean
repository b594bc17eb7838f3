import ObjectModel.Proofs.Transition
import ObjectModel.Proofs.Upholds

/-!
# Programs that do not look at the event log

`Realm.silenced` is a realm as it would be if it recorded nothing.  All operations but taking the
events out do in it what they do in the realm itself (`Realm.perform_silenced`), and add no more
objects than they have room for (`Realm.perform_fits`).

A program is modest if it takes no events out, looks at nothing that silence changes, and adds no
more objects than stated.  By induction on the program, a modest program runs in silence as it does
in the realm itself (`Program.Modest.run_silenced`), and to its end if there are handles enough
(`Program.Modest.completes`).
-/

namespace ObjectModel

variable {β σ α γ : Type}

/-! ## Operations in silence -/

namespace Realm

/-- The realm as it would be if it recorded nothing. -/
def silenced (r : Realm β) : Realm β :=
  { r with
    config := { maxPrototypeDepth := r.config.maxPrototypeDepth, recordEvents := false }
    events := .new "" 0 false }

section Silenced

variable (r : Realm β)

@[simp] theorem silenced_heap : r.silenced.heap = r.heap := rfl

@[simp] theorem silenced_functions : r.silenced.functions = r.functions := rfl

@[simp] theorem silenced_intrinsics : r.silenced.intrinsics = r.intrinsics := rfl

@[simp] theorem silenced_maxHops : r.silenced.maxHops = r.maxHops := rfl

@[simp] theorem silenced_isCallable (h : ObjectHandle) :
    r.silenced.isCallable h = r.isCallable h := rfl

/-- Nothing is recorded in silence. -/
@[simp] theorem emit_silenced (report : Report) : r.silenced.emit report = r.silenced := rfl

/-- Silence covers what was recorded. -/
@[simp] theorem silenced_emit (report : Report) : (r.emit report).silenced = r.silenced := rfl

@[simp] theorem noteTruncation_silenced (object : ObjectHandle) (key : Option PropertyKey)
    (truncation : Option WalkTruncation) :
    r.silenced.noteTruncation object key truncation = r.silenced := by
  cases truncation <;> rfl

@[simp] theorem silenced_noteTruncation (object : ObjectHandle) (key : Option PropertyKey)
    (truncation : Option WalkTruncation) :
    (r.noteTruncation object key truncation).silenced = r.silenced := by
  cases truncation <;> rfl

@[simp] theorem silenced_withHeap (heap : Heap) :
    ({ r with heap } : Realm β).silenced = { r.silenced with heap } := rfl

theorem alloc_silenced (o : OrdinaryObject) :
    r.silenced.alloc o = (r.alloc o).map id silenced := by
  simp only [alloc, silenced_heap]
  cases r.heap.alloc? o <;> rfl

theorem createObject_silenced (prototype : Option ObjectHandle) :
    r.silenced.createObject prototype = (r.createObject prototype).map id silenced := by
  simp only [createObject, silenced_heap]
  split
  · rfl
  · exact r.alloc_silenced _

theorem createFunction_silenced (name : String) (body : β) :
    r.silenced.createFunction name body = (r.createFunction name body).map id silenced := by
  simp only [createFunction, silenced_heap, silenced_intrinsics]
  split
  · rfl
  · split <;> rfl

theorem get_silenced (object : ObjectHandle) (key : PropertyKey) (receiver : Value) :
    r.silenced.get object key receiver = (r.get object key receiver).map id silenced := by
  simp only [get, silenced_heap, silenced_maxHops]
  split
  · rfl
  · next lookup _ =>
    obtain ⟨found, truncation⟩ := lookup
    cases truncation <;> simp only [noteTruncation] <;> split <;> rfl

theorem put_silenced (object : ObjectHandle) (key : PropertyKey) (value receiver : Value) :
    r.silenced.put object key value receiver =
      (r.put object key value receiver).map id silenced := by
  simp only [put, silenced_heap, silenced_maxHops]
  cases r.heap.findProperty object key r.maxHops with
  | error e => rfl
  | ok lookup =>
    obtain ⟨found, truncation⟩ := lookup
    simp only [noteTruncation_silenced, silenced_heap, noteTruncation_heap]
    -- whether the object is extensible matters in two cases
    generalize (r.heap.get? object).any (·.extensible) = extensible
    cases found with
    | none => cases truncation <;> cases extensible <;> rfl
    | some entry =>
      obtain ⟨owner, shown⟩ := entry
      cases shown with
      | accessor get set e c => cases truncation <;> cases set <;> rfl
      | data old writable e c =>
        cases writable with
        | false => cases truncation <;> rfl
        | true =>
          by_cases same : owner = object
          · simp only [if_pos same]
            cases truncation <;> rfl
          · simp only [if_neg same]
            cases truncation <;> cases extensible <;> rfl

theorem has_silenced (object : ObjectHandle) (key : PropertyKey) :
    r.silenced.has object key = (r.has object key).map id silenced := by
  simp only [has, silenced_heap, silenced_maxHops, noteTruncation_silenced]
  split
  · rfl
  · simp only [Prod.map, id_eq, silenced_noteTruncation]

theorem define_silenced (object : ObjectHandle) (key : PropertyKey) (fields : DescriptorFields) :
    r.silenced.define object key fields = (r.define object key fields).map id silenced := by
  simp only [define, silenced_heap, silenced_isCallable]
  split
  · rfl
  · split
    · rfl
    · split <;> rfl

theorem delete_silenced (object : ObjectHandle) (key : PropertyKey) :
    r.silenced.delete object key = (r.delete object key).map id silenced := by
  simp only [delete, silenced_heap]
  split <;> rfl

theorem enumerateKeys_silenced (object : ObjectHandle) :
    r.silenced.enumerateKeys object = (r.enumerateKeys object).map id silenced := by
  simp only [enumerateKeys, silenced_heap, silenced_maxHops, noteTruncation_silenced]
  split
  · rfl
  · simp only [Prod.map, id_eq, silenced_noteTruncation]

theorem update_silenced (object : ObjectHandle) (f : OrdinaryObject → OrdinaryObject) :
    r.silenced.update object f = (r.update object f).map id silenced := by
  by_cases live : r.heap.contains object = true
  · rw [update, update, if_pos live, silenced_heap, if_pos live]
    rfl
  · rw [update, update, if_neg live, silenced_heap, if_neg live]
    rfl

theorem setPrototype_silenced (object : ObjectHandle) (prototype : Option ObjectHandle) :
    r.silenced.setPrototype object prototype =
      (r.setPrototype object prototype).map id silenced := by
  simp only [setPrototype, silenced_heap]
  split <;> rfl

end Silenced

/-- No operation but taking the events out depends on what is recorded. -/
theorem perform_silenced (r : Realm β) {q : Request β} (unlogged : q ≠ .drainEvents) :
    r.silenced.perform q = (r.perform q).map id silenced := by
  cases q with
  | newObject => exact r.alloc_silenced _
  | createObject prototype => exact r.createObject_silenced prototype
  | allocate prototype classTag => exact r.alloc_silenced _
  | createFunction name body => exact r.createFunction_silenced name body
  | call => rfl
  | get object key receiver => exact r.get_silenced object key receiver
  | put object key value receiver => exact r.put_silenced object key value receiver
  | has object key => exact r.has_silenced object key
  | define object key fields => exact r.define_silenced object key fields
  | delete object key => exact r.delete_silenced object key
  | enumerateKeys object => exact r.enumerateKeys_silenced object
  | preventExtensions object | makeSealed object | makeFrozen object =>
    exact r.update_silenced object _
  | setPrototype object prototype => exact r.setPrototype_silenced object prototype
  | drainEvents => exact absurd rfl unlogged

end Realm

/-! ## Room for new objects -/

namespace Heap

theorem size_modify (heap : Heap) (h : ObjectHandle) (f : OrdinaryObject → OrdinaryObject) :
    (heap.modify h f).size = heap.size := by
  rw [size, size, modify, Array.size_modify]

theorem alloc?_of_room {heap : Heap} (room : heap.size < 2 ^ 32) (o : OrdinaryObject) :
    ∃ h heap', heap.alloc? o = some (h, heap') ∧ heap'.size = heap.size + 1 := by
  rw [size] at room
  rw [alloc?, dif_pos room]
  exact ⟨_, _, rfl, Array.size_push _⟩

theorem size_setPrototype {heap heap' : Heap} {h : ObjectHandle} {prototype : Option ObjectHandle}
    {answer : Bool} (accepted : heap.setPrototype h prototype = .ok (answer, heap')) :
    heap'.size = heap.size := by
  obtain ⟨o, -, -, rfl | ⟨-, rfl⟩⟩ := setPrototype_inv accepted
  · rfl
  · exact size_modify ..

end Heap

/-- The number of objects that an operation may add. -/
def Request.room : Request β → Nat
  | newObject | createObject _ | allocate .. => 1
  | createFunction .. => 2
  | _ => 0

namespace Realm

/-- There is an answer, and no more objects were added than there was room for. -/
def Fits (r : Realm β) (room : Nat) (answer : Reply β α × Realm β) : Prop :=
  answer.1 ≠ .exhausted ∧ answer.2.heap.size ≤ r.heap.size + room

section Fits

variable (r : Realm β)

theorem alloc_fits (room : r.heap.size + 1 ≤ 2 ^ 32) (o : OrdinaryObject) :
    r.Fits 1 (r.alloc o) := by
  obtain ⟨h, heap, allocated, size⟩ := Heap.alloc?_of_room room o
  rw [alloc, allocated]
  exact ⟨nofun, Nat.le_of_eq size⟩

theorem createFunction_fits (room : r.heap.size + 2 ≤ 2 ^ 32) (name : String) (body : β) :
    r.Fits 2 (r.createFunction name body) := by
  obtain ⟨h, heap, function, size⟩ :=
    Heap.alloc?_of_room (Nat.lt_of_succ_lt room) r.newFunction
  obtain ⟨p, heap', prototype, size'⟩ :=
    Heap.alloc?_of_room (show heap.size < 2 ^ 32 by omega) (r.newPrototype h)
  rw [newFunction] at function
  rw [newPrototype] at prototype
  simp only [createFunction, function, prototype]
  constructor
  · intro same
    cases same
  · rw [Heap.size_modify]
    omega

theorem call_ne_exhausted (function : ObjectHandle) (this : Value) (args : List Value)
    (finish : Value → α) : r.call function this args finish ≠ .exhausted := by
  unfold call
  split <;> exact nofun

theorem get_fits (object : ObjectHandle) (key : PropertyKey) (receiver : Value) :
    r.Fits 0 (r.get object key receiver) := by
  have step := r.get_cases object key receiver
  generalize r.get object key receiver = answer at step
  cases step with
  | missing | data | noGetter => exact ⟨nofun, Nat.le_refl _⟩
  | getter => exact ⟨r.call_ne_exhausted _ _ _ _, Nat.le_refl _⟩
  | absent => exact ⟨nofun, by rw [noteTruncation_heap]; exact Nat.le_refl _⟩

theorem put_fits (object : ObjectHandle) (key : PropertyKey) (value receiver : Value) :
    r.Fits 0 (r.put object key value receiver) := by
  have step := r.put_cases object key value receiver
  generalize r.put object key value receiver = answer at step
  cases step with
  | missing | noSetter | nonWritable => exact ⟨nofun, Nat.le_refl _⟩
  | setter => exact ⟨r.call_ne_exhausted _ _ _ _, Nat.le_refl _⟩
  | write | add => exact ⟨nofun, Nat.le_of_eq (Heap.size_modify ..)⟩
  | closed => exact ⟨nofun, by rw [notePutIgnored, emit, noteTruncation_heap]; exact Nat.le_refl _⟩

theorem define_fits (object : ObjectHandle) (key : PropertyKey) (fields : DescriptorFields) :
    r.Fits 0 (r.define object key fields) := by
  unfold define
  split
  · exact ⟨nofun, Nat.le_refl _⟩
  · split
    · exact ⟨nofun, Nat.le_refl _⟩
    · split
      · exact ⟨nofun, Nat.le_refl _⟩
      · exact ⟨nofun, Nat.le_of_eq (Heap.size_modify ..)⟩

theorem update_fits (object : ObjectHandle) (f : OrdinaryObject → OrdinaryObject) :
    r.Fits 0 (r.update object f) := by
  unfold update
  split
  · exact ⟨nofun, Nat.le_of_eq (Heap.size_modify ..)⟩
  · exact ⟨nofun, Nat.le_refl _⟩

end Fits

/-- An operation is answered if there is room for what it may add. -/
theorem perform_fits (r : Realm β) (q : Request β) (room : r.heap.size + q.room ≤ 2 ^ 32) :
    r.Fits q.room (r.perform q) := by
  cases q with
  | newObject | allocate => exact r.alloc_fits room _
  | createObject prototype =>
    rw [perform, createObject]
    split
    · exact ⟨nofun, Nat.le_succ _⟩
    · exact r.alloc_fits room _
  | createFunction name body => exact r.createFunction_fits room name body
  | call => exact ⟨r.call_ne_exhausted _ _ _ _, Nat.le_refl _⟩
  | get object key receiver => exact r.get_fits object key receiver
  | put object key value receiver => exact r.put_fits object key value receiver
  | has object key =>
    rw [perform, has]
    split
    · exact ⟨nofun, Nat.le_refl _⟩
    · exact ⟨nofun, by rw [noteTruncation_heap]; exact Nat.le_refl _⟩
  | define object key fields => exact r.define_fits object key fields
  | delete object key =>
    rw [perform, delete]
    split
    · exact ⟨nofun, Nat.le_refl _⟩
    · exact ⟨nofun, Nat.le_of_eq (Heap.size_modify ..)⟩
  | enumerateKeys object =>
    rw [perform, enumerateKeys]
    split
    · exact ⟨nofun, Nat.le_refl _⟩
    · exact ⟨nofun, by rw [noteTruncation_heap]; exact Nat.le_refl _⟩
  | preventExtensions | makeSealed | makeFrozen => exact r.update_fits _ _
  | setPrototype object prototype =>
    rw [perform, setPrototype]
    split
    · exact ⟨nofun, Nat.le_refl _⟩
    · next accepted => exact ⟨nofun, Nat.le_of_eq (Heap.size_setPrototype accepted)⟩
  | drainEvents => exact ⟨nofun, Nat.le_refl _⟩

end Realm

/-! ## Modest programs -/

/-- The world as it would be if nothing were recorded. -/
def World.silenced (w : World β σ) : World β σ := { w with realm := w.realm.silenced }

/-- The end of a run as it would be if nothing were recorded. -/
def World.silencedEnd (ended : Except ObjectError α × World β σ) :
    Except ObjectError α × World β σ :=
  (ended.1, ended.2.silenced)

namespace Program

/-- The program does not look at the event log and adds at most `room` objects. -/
inductive Modest : (room : Nat) → Program β σ α → Prop where
  | done {room} (result) : Modest room (.done result)
  | ask {room rest q next} (unlogged : q ≠ .drainEvents) (fits : q.room + rest ≤ room)
      (continues : ∀ answer, Modest rest (next answer)) : Modest room (.ask q next)
  | look {room next} (unlogged : ∀ r : Realm β, next r.silenced = next r)
      (continues : ∀ r, Modest room (next r)) : Modest room (.look next)
  | host {room change next} (continues : ∀ state, Modest room (next state)) :
      Modest room (.host change next)

namespace Modest

variable {room rest : Nat} {p : Program β σ α}

theorem mono (modest : Modest room p) (fits : room ≤ rest) : Modest rest p := by
  induction modest generalizing rest with
  | done result => exact .done result
  | ask unlogged small continues => exact .ask unlogged (Nat.le_trans small fits) continues
  | look unlogged _ ih => exact .look unlogged fun r => ih r fits
  | host _ ih => exact .host fun state => ih state fits

theorem continueWith {f : Except ObjectError α → Program β σ γ} (first : Modest room p)
    (second : ∀ result, Modest rest (f result)) : Modest (room + rest) (p.continueWith f) := by
  induction first with
  | done result => exact (second result).mono (Nat.le_add_left ..)
  | ask unlogged fits _ ih => exact .ask unlogged (by omega) ih
  | look unlogged _ ih =>
    exact .look (fun r => congrArg (Program.continueWith · f) (unlogged r)) ih
  | host _ ih => exact .host ih

theorem andThen {f : α → Program β σ γ} (first : Modest room p)
    (second : ∀ a, Modest rest (f a)) : Modest (room + rest) (p.andThen f) := by
  rw [andThen_eq_continueWith]
  refine first.continueWith fun result => ?_
  cases result with
  | ok a => exact second a
  | error e => exact .done _

/-- The first program adds nothing. -/
theorem free_bind {f : α → Program β σ γ} (first : Modest 0 p) (second : ∀ a, Modest rest (f a)) :
    Modest rest (p >>= f) := by
  have both := first.andThen second
  rwa [Nat.zero_add] at both

/-- The second program adds nothing. -/
theorem bind_free {f : α → Program β σ γ} (first : Modest room p) (second : ∀ a, Modest 0 (f a)) :
    Modest room (p >>= f) :=
  first.andThen second

theorem orElse {f : ObjectError → Program β σ α} (first : Modest room p)
    (second : ∀ e, Modest rest (f e)) : Modest (room + rest) (p.orElse f) := by
  rw [orElse_eq_continueWith]
  refine first.continueWith fun result => ?_
  cases result with
  | ok a => exact .done _
  | error e => exact second e

theorem request (q : Request β) (unlogged : q ≠ .drainEvents) :
    Modest q.room (Program.request q : Program β σ q.Answer) :=
  .ask unlogged (Nat.le_of_eq (Nat.add_zero _)) .done

theorem inspect {f : Realm β → α} (unlogged : ∀ r : Realm β, f r.silenced = f r) :
    Modest 0 (Program.inspect f : Program β σ α) :=
  .look (fun r => congrArg (fun a => Program.done (.ok a)) (unlogged r)) fun r => .done (.ok (f r))

theorem inspectOrThrow {f : Realm β → Except ObjectError α}
    (unlogged : ∀ r : Realm β, f r.silenced = f r) :
    Modest 0 (Program.inspectOrThrow f : Program β σ α) :=
  .look (fun r => congrArg Program.done (unlogged r)) fun r => .done (f r)

end Modest

section Runs

variable {room : Nat} {p : Program β σ α}

/-! ### Runs in silence -/

/-- A modest program runs in silence as it does otherwise, if the functions that it calls do. -/
theorem Modest.runWith_silenced (modest : Modest room p)
    {callee : β → Value → List Value → World β σ → Option (Except ObjectError Value × World β σ)}
    (calls : ∀ body this args w, callee body this args w.silenced =
      (callee body this args w).map World.silencedEnd) (w : World β σ) :
    p.runWith callee w.silenced = (p.runWith callee w).map World.silencedEnd := by
  induction modest generalizing w with
  | done result => rfl
  | @ask room rest q next unlogged fits continues ih =>
    obtain ⟨realm, state⟩ := w
    simp only [World.silenced, runWith, realm.perform_silenced unlogged]
    obtain ⟨reply, realm'⟩ := realm.perform q
    cases reply with
    | done result => exact ih result ⟨realm', state⟩
    | exhausted => rfl
    | call body this args finish =>
      have called := calls body this args ⟨realm', state⟩
      simp only [World.silenced] at called
      simp only [Prod.map, id_eq, called]
      cases callee body this args ⟨realm', state⟩ with
      | none => rfl
      | some ended => exact ih _ ended.2
  | @look room next unlogged continues ih =>
    have same : next w.silenced.realm = next w.realm := unlogged w.realm
    rw [runWith, runWith, same]
    exact ih w.realm w
  | @host room change next continues ih =>
    exact ih (change w.host) ⟨w.realm, change w.host⟩

theorem runBody_silenced {bodies : β → Value → List Value → Program β σ Value}
    (modest : ∀ body this args, ∃ room, Modest room (bodies body this args)) (depth : Nat)
    (body : β) (this : Value) (args : List Value) (w : World β σ) :
    runBody bodies depth body this args w.silenced =
      (runBody bodies depth body this args w).map World.silencedEnd := by
  induction depth generalizing body this args w with
  | zero => rfl
  | succ depth ih =>
    obtain ⟨room, modest⟩ := modest body this args
    exact modest.runWith_silenced ih w

theorem Modest.run_silenced (modest : Modest room p)
    {bodies : β → Value → List Value → Program β σ Value}
    (modestBodies : ∀ body this args, ∃ room, Modest room (bodies body this args)) (depth : Nat)
    (w : World β σ) :
    p.run bodies depth w.silenced =
      (p.run bodies depth w).map World.silencedEnd :=
  modest.runWith_silenced (runBody_silenced modestBodies depth) w

/-! ### Runs to the end -/

/-- A modest program runs to its end if there is room and the functions that it calls do and add
nothing. -/
theorem Modest.completes (modest : Modest room p)
    {callee : β → Value → List Value → World β σ → Option (Except ObjectError Value × World β σ)}
    (calls : ∀ body this args w, ∃ result w', callee body this args w = some (result, w') ∧
      w'.realm.heap.size = w.realm.heap.size)
    {w : World β σ} (enough : w.realm.heap.size + room ≤ 2 ^ 32) :
    ∃ result w', p.runWith callee w = some (result, w') ∧
      w'.realm.heap.size ≤ w.realm.heap.size + room := by
  induction modest generalizing w with
  | done result => exact ⟨result, w, rfl, Nat.le_add_right ..⟩
  | @ask room rest q next unlogged fits continues ih =>
    obtain ⟨realm, state⟩ := w
    have small : realm.heap.size + q.room ≤ 2 ^ 32 := by
      dsimp only at enough
      omega
    obtain ⟨answered, size⟩ := realm.perform_fits q small
    rw [runWith]
    generalize realm.perform q = answer at answered size
    obtain ⟨reply, realm'⟩ := answer
    dsimp only at enough size
    cases reply with
    | done result =>
      obtain ⟨final, w', ran, size'⟩ := ih result (w := ⟨realm', state⟩) (by dsimp only; omega)
      exact ⟨final, w', ran, by dsimp only at size' ⊢; omega⟩
    | exhausted => exact absurd rfl answered
    | call body this args finish =>
      obtain ⟨result, w', called, same⟩ := calls body this args ⟨realm', state⟩
      dsimp only at same
      obtain ⟨final, w'', ran, size'⟩ := ih (result.map finish) (w := w') (by omega)
      dsimp only
      rw [called]
      exact ⟨final, w'', ran, by omega⟩
  | look unlogged continues ih => exact ih w.realm enough
  | @host room change next continues ih =>
    exact ih (change w.host) (w := ⟨w.realm, change w.host⟩) enough

end Runs

end Program

end ObjectModel
