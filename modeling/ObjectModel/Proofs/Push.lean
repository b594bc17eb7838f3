import ObjectModel.Proofs.Chain
import ObjectModel.Proofs.Key
import ObjectModel.Proofs.Rational
import ObjectModel.Proofs.Reachability
import ObjectModel.Proofs.Reading

/-!
# Appending to an object

`ArrayLike.push` writes each value by an ordinary assignment, which may be refused without an error.
It is not refused where the chain shows a writable data property or nothing (`Realm.Assignable`),
and this stays so for all keys while the elements are written (`Writes`).

The index of the next element is a 32-bit number that stays at the largest one (`slot`).  So the
values go to slots of their own, and the length counts them, exactly as long as the new length has
32 bits (`push_appends_within_limit`).  Beyond it each value overwrites the one before it
(`push_at_limit_overwrites`).
-/

namespace ObjectModel

variable {β σ : Type}

namespace OrdinaryObject

/-- The object owns a writable data property that holds the value. -/
def Stores (o : OrdinaryObject) (key : PropertyKey) (value : Value) : Prop :=
  ∃ enumerable configurable, o.getOwn? key = some (.data value true enumerable configurable)

theorem stores_setOwn (o : OrdinaryObject) (key : PropertyKey) (value : Value) (e c : Bool) :
    (o.setOwn key (.data value true e c)).Stores key value :=
  ⟨e, c, by rw [getOwn?_setOwn, if_pos rfl]⟩

theorem Stores.setOwn_of_ne {o : OrdinaryObject} {key other : PropertyKey} {value : Value}
    (stores : o.Stores key value) (differs : other ≠ key) (p : PropertyDescriptor) :
    (o.setOwn other p).Stores key value := by
  obtain ⟨e, c, owned⟩ := stores
  exact ⟨e, c, by rw [getOwn?_setOwn, if_neg differs, owned]⟩

end OrdinaryObject

/-! ## Assignments that are not refused -/

namespace Realm

/-- The chain of the object shows a writable data property under the key, or nothing. -/
def Assignable (r : Realm β) (object : ObjectHandle) (key : PropertyKey) : Prop :=
  ∃ lookup, r.heap.findProperty object key r.maxHops = .ok lookup ∧
    lookup.found.all (·.2.isWritable) = true

/-- Some keys of the object have been assigned to, and `o'` is what it is now. -/
structure Writes (r r' : Realm β) (object : ObjectHandle) (o' : OrdinaryObject) : Prop where
  live : r'.heap.get? object = some o'
  extensible : o'.extensible = true
  others : ∀ h, h ≠ object → r'.heap.get? h = r.heap.get? h
  assignable : ∀ key, r.Assignable object key → r'.Assignable object key

variable {r r' r'' : Realm β} {object : ObjectHandle} {o o' o'' : OrdinaryObject}
  {key : PropertyKey}

theorem Writes.refl (live : r.heap.get? object = some o) (extensible : o.extensible = true) :
    r.Writes r object o where
  live := live
  extensible := extensible
  others _ _ := rfl
  assignable _ assignable := assignable

theorem Writes.trans (first : r.Writes r' object o') (second : r'.Writes r'' object o'') :
    r.Writes r'' object o'' where
  live := second.live
  extensible := second.extensible
  others h other := (second.others h other).trans (first.others h other)
  assignable key assignable := second.assignable key (first.assignable key assignable)

theorem Writes.setOwn {value : Value} {e c : Bool} (live : r.heap.get? object = some o)
    (extensible : o.extensible = true)
    (heap : r'.heap = r.heap.modify object fun _ => o.setOwn key (.data value true e c))
    (config : r'.config = r.config) :
    r.Writes r' object (o.setOwn key (.data value true e c)) := by
  have live' : r'.heap.get? object = some (o.setOwn key (.data value true e c)) := by
    rw [heap]
    exact Heap.get?_replace_self live _
  have others : ∀ h, h ≠ object → r'.heap.get? h = r.heap.get? h := by
    intro h other
    rw [heap, Heap.get?_replace_of_ne other]
  refine ⟨live', extensible, others, fun other assignable => ?_⟩
  by_cases this : key = other
  · subst this
    have owned : (o.setOwn key (.data value true e c)).getOwn? key =
        some (.data value true e c) := by
      rw [OrdinaryObject.getOwn?_setOwn, if_pos rfl]
    exact ⟨_, Heap.findProperty_of_own live' owned r'.maxHops, rfl⟩
  · -- a search for another key does not see the change
    obtain ⟨lookup, ends, writable⟩ := assignable
    refine ⟨lookup, ?_, writable⟩
    rw [maxHops, config]
    refine Heap.findProperty_congr (fun h => ?_) ends
    by_cases same : h = object
    · subst same
      simp only [live, live', Option.map_some, OrdinaryObject.getOwn?_setOwn, if_neg this]
      rfl
    · rw [others h same]

/-- Nothing refuses an assignment to such a key of an extensible object. -/
theorem put_of_assignable (live : r.heap.get? object = some o) (extensible : o.extensible = true)
    (assignable : r.Assignable object key) (value receiver : Value) :
    ∃ e c r', r.put object key value receiver = (.done (.ok ()), r') ∧
      r.Writes r' object (o.setOwn key (.data value true e c)) := by
  obtain ⟨lookup, ends, writable⟩ := assignable
  have step := r.put_cases object key value receiver
  generalize r.put object key value receiver = answer at step
  cases step with
  | missing fails => cases fails.symm.trans ends
  | setter ends' | noSetter ends' | nonWritable ends' =>
    -- neither an accessor nor a read-only property counts as writable
    cases ends'.symm.trans ends
    cases writable
  | write live' owned =>
    cases live'.symm.trans live
    exact ⟨_, _, _, rfl, .setOwn live extensible rfl rfl⟩
  | @add o lookup live' =>
    cases live'.symm.trans live
    obtain ⟨events, noted⟩ := r.noteTruncation_eq object (some key) lookup.truncation
    refine ⟨_, _, _, rfl, .setOwn live extensible rfl ?_⟩
    rw [noted]
  | closed live' _ _ _ closed =>
    cases live'.symm.trans live
    cases closed.symm.trans extensible

/-- Nothing is called to read such a key. -/
theorem Assignable.readsPlainly (assignable : r.Assignable object key) :
    ∃ value, r.ReadsPlainly object key value := by
  obtain ⟨⟨found, truncation⟩, ends, writable⟩ := assignable
  match found with
  | none => exact ⟨_, .absent ends⟩
  | some (owner, .data value w e c) => exact ⟨value, .shown ⟨owner, w, e, c, truncation, ends⟩⟩
  | some (owner, .accessor ..) => cases writable

end Realm

namespace ArrayLike

open Realm

/-! ## Slots -/

/-- The index that the `i`-th value goes to. -/
def slot (length : UInt32) (i : Nat) : UInt32 :=
  UInt32.ofNat (min (length.toNat + i) (2 ^ 32 - 1))

theorem toNat_slot (length : UInt32) (i : Nat) :
    (slot length i).toNat = min (length.toNat + i) (2 ^ 32 - 1) :=
  Heap.index_ofNat (by omega)

theorem slot_zero (length : UInt32) : slot length 0 = length := by
  have small : length.toNat < 2 ^ 32 := length.toNat_lt
  rw [← UInt32.toNat_inj, toNat_slot]
  omega

theorem toNat_nextLength (length : UInt32) :
    (nextLength length).toNat = min (length.toNat + 1) (2 ^ 32 - 1) := by
  have small : length.toNat < 2 ^ 32 := length.toNat_lt
  have limit : (UInt32.ofNat (2 ^ 32 - 1)).toNat = 2 ^ 32 - 1 := rfl
  unfold nextLength
  split
  · next last =>
    rw [last, limit]
    rfl
  · next more =>
    have : length.toNat ≠ 2 ^ 32 - 1 :=
      fun last => more (UInt32.toNat_inj.1 (last.trans limit.symm))
    rw [UInt32.toNat_add]
    have one : (1 : UInt32).toNat = 1 := rfl
    omega

theorem slot_nextLength (length : UInt32) (i : Nat) :
    slot (nextLength length) i = slot length (i + 1) := by
  rw [← UInt32.toNat_inj, toNat_slot, toNat_slot, toNat_nextLength]
  omega

theorem ofIndex_slot (length : UInt32) (i : Nat) :
    PropertyKey.ofIndex (slot length i) = .decimal (min (length.toNat + i) (2 ^ 32 - 1)) := by
  rw [PropertyKey.ofIndex_eq_decimal, toNat_slot]

/-- What writing values from an index on does to an object. -/
structure Filled (length : UInt32) (values : List Value) (o o' : OrdinaryObject) : Prop where
  stored : ∀ i (inside : i < values.length),
    length.toNat + i < 2 ^ 32 - 1 ∨ i + 1 = values.length →
      o'.Stores (.ofIndex (slot length i)) values[i]
  others : ∀ key, (∀ i < values.length, key ≠ .ofIndex (slot length i)) →
    o'.getOwn? key = o.getOwn? key

variable {length : UInt32} {value : Value} {values : List Value} {o o' : OrdinaryObject}

theorem Filled.nil (length : UInt32) (o : OrdinaryObject) : Filled length [] o o where
  stored _ inside := nomatch inside
  others _ _ := rfl

theorem Filled.cons {e c : Bool}
    (rest : Filled (nextLength length) values
      (o.setOwn (.ofIndex length) (.data value true e c)) o') :
    Filled length (value :: values) o o' where
  stored i inside kept := by
    have next := toNat_nextLength length
    cases i with
    | zero =>
      -- no later value goes to this slot: either the slots go on, or there is none
      have later : ∀ j < values.length,
          PropertyKey.ofIndex (slot length 0) ≠ .ofIndex (slot (nextLength length) j) := by
        intro j more same
        rw [PropertyKey.ofIndex_inj, ← UInt32.toNat_inj, toNat_slot, toNat_slot] at same
        rw [List.length_cons] at kept
        omega
      refine ⟨e, c, ?_⟩
      rw [rest.others _ later, slot_zero, OrdinaryObject.getOwn?_setOwn, if_pos rfl]
      rfl
    | succ i =>
      rw [← slot_nextLength]
      refine rest.stored i (Nat.lt_of_succ_lt_succ inside) ?_
      rw [List.length_cons] at kept
      omega
  others key apart := by
    have first : PropertyKey.ofIndex length ≠ key := by
      have := apart 0 (Nat.zero_lt_succ _)
      rw [slot_zero] at this
      exact this.symm
    rw [rest.others key fun i inside => ?_, OrdinaryObject.getOwn?_setOwn, if_neg first]
    rw [slot_nextLength]
    exact apart (i + 1) (Nat.succ_lt_succ inside)

/-! ## Runs -/

section Run

variable {r : Realm β} {object : ObjectHandle} {key : PropertyKey}
  (bodies : β → Value → List Value → Program β σ Value) (depth : Nat) (state : σ)

theorem run_putValue (live : r.heap.get? object = some o) (extensible : o.extensible = true)
    (assignable : r.Assignable object key) (value : Value) :
    ∃ e c r', (Program.putValue object key value).run bodies depth ⟨r, state⟩ =
        some (.ok (), ⟨r', state⟩) ∧
      r.Writes r' object (o.setOwn key (.data value true e c)) := by
  obtain ⟨e, c, r', answered, writes⟩ :=
    put_of_assignable live extensible assignable value (.object object)
  exact ⟨e, c, r', Program.run_request_done (q := .put object key value (.object object)) answered
    bodies depth state, writes⟩

/-- A length that has been written is read back. -/
theorem run_lengthOf_of_stored (live : r.heap.get? object = some o)
    (stored : o.Stores lengthKey (.ofUInt32 length)) :
    (lengthOf object).run bodies depth ⟨r, state⟩ = some (.ok length, ⟨r, state⟩) := by
  obtain ⟨e, c, owned⟩ := stored
  rw [run_lengthOf bodies depth state (Realm.get_own_data live owned (.object object))]
  -- a number of 32 bits is a double without rounding
  simp only [Value.toUInt32, Value.ofUInt32, Value.toNumber, Double.toUInt32_ofNat]

/-- Elements that may all be assigned to are written one after the other. -/
theorem putElements_run (values : List Value) {length : UInt32}
    (live : r.heap.get? object = some o) (extensible : o.extensible = true)
    (assignable : ∀ i < values.length, r.Assignable object (.ofIndex (slot length i))) :
    ∃ r' o', (putElements object length values).run bodies depth ⟨r, state⟩ =
        some (.ok (slot length values.length), ⟨r', state⟩) ∧
      r.Writes r' object o' ∧ Filled length values o o' := by
  induction values generalizing r o length with
  | nil =>
    refine ⟨r, o, ?_, .refl live extensible, .nil length o⟩
    rw [List.length_nil, slot_zero]
    rfl
  | cons value rest ih =>
    have here : r.Assignable object (.ofIndex length) := by
      rw [← slot_zero length]
      exact assignable 0 (Nat.zero_lt_succ _)
    obtain ⟨e, c, r₁, ended, first⟩ :=
      run_putValue bodies depth state live extensible here value
    -- the first assignment leaves all keys assignable, so the others go on from there
    have later : ∀ i < rest.length,
        r₁.Assignable object (.ofIndex (slot (nextLength length) i)) := by
      intro i inside
      rw [slot_nextLength]
      exact first.assignable _ (assignable (i + 1) (Nat.succ_lt_succ inside))
    obtain ⟨r₂, o', ended', writes, filled⟩ := ih first.live first.extensible later
    refine ⟨r₂, o', ?_, first.trans writes, filled.cons⟩
    show ((Program.putValue object (.ofIndex length) value).andThen fun _ =>
      putElements object (nextLength length) rest).run bodies depth ⟨r, state⟩ = _
    rw [Program.run_andThen, ended, List.length_cons, ← slot_nextLength]
    exact ended'

/-- The elements, and then the length. -/
theorem push_run (values : List Value) {n : UInt32} {v : World β σ}
    (live : r.heap.get? object = some o) (extensible : o.extensible = true)
    (length : (lengthOf object).run bodies depth ⟨r, state⟩ = some (.ok n, v))
    (assignableLength : r.Assignable object lengthKey)
    (assignable : ∀ i < values.length, r.Assignable object (.ofIndex (slot n i))) :
    ∃ r' o' e c, (push object values).run bodies depth ⟨r, state⟩ =
        some (.ok (slot n values.length), ⟨r', state⟩) ∧
      r.Writes r' object
        (o'.setOwn lengthKey (.data (.ofUInt32 (slot n values.length)) true e c)) ∧
      Filled n values o o' := by
  obtain ⟨read, reads⟩ := assignableLength.readsPlainly
  obtain ⟨events, answered⟩ := reads.get (.object object)
  have ended := run_lengthOf bodies depth state answered
  obtain ⟨rfl, rfl⟩ : read.toUInt32 = n ∧ ⟨{ r with events }, state⟩ = v := by
    simpa [ended] using length
  have assignable₁ : ∀ key, r.Assignable object key →
      ({ r with events } : Realm β).Assignable object key := fun _ before => before
  obtain ⟨r₂, o', ended', writes, filled⟩ := putElements_run bodies depth state values
    (r := { r with events }) live extensible fun i inside => assignable₁ _ (assignable i inside)
  obtain ⟨e, c, r₃, ended'', last⟩ := run_putValue bodies depth state writes.live writes.extensible
    (writes.assignable _ (assignable₁ _ assignableLength))
    (.ofUInt32 (slot read.toUInt32 values.length))
  refine ⟨r₃, o', e, c, ?_, ?_, filled⟩
  · show ((lengthOf object).andThen fun n => (putElements object n values).andThen fun length =>
      (Program.putValue object lengthKey (.ofUInt32 length)).andThen fun _ =>
        .done (.ok length)).run bodies depth ⟨r, state⟩ = _
    simp only [Program.run_andThen, ended, ended', ended'', Option.bind_some]
    rfl
  · have all := writes.trans last
    exact
      { live := all.live
        extensible := all.extensible
        others := all.others
        assignable := fun key before => all.assignable key (assignable₁ key before) }

end Run

/-! ## The limit of the length -/

/-- All values have been appended to an object of length `n`, each under its own index. -/
structure Appended (n : Nat) (values : List Value) (o o' : OrdinaryObject) (length : UInt32) :
    Prop where
  elements : ∀ i (inside : i < values.length), o'.Stores (.decimal (n + i)) values[i]
  distinct : ∀ i < values.length, ∀ j < values.length, i ≠ j →
    PropertyKey.decimal (n + i) ≠ .decimal (n + j)
  below : ∀ k < n, o'.getOwn? (.decimal k) = o.getOwn? (.decimal k)
  returned : length.toNat = n + values.length
  storedLength : o'.Stores lengthKey (.number (.ofNat (n + values.length)))

theorem lengthKey_ne_decimal (n : Nat) : lengthKey ≠ .decimal n :=
  PropertyKey.ne_decimal (c := 'l') (by decide) (by decide) n

/-- As long as the new length has 32 bits, nothing is lost. -/
theorem Filled.appended {n : UInt32} {p : OrdinaryObject} {e c : Bool}
    (filled : Filled n values o p) (within : n.toNat + values.length < 2 ^ 32) :
    Appended n.toNat values o
      (p.setOwn lengthKey (.data (.ofUInt32 (slot n values.length)) true e c))
      (slot n values.length) := by
  have returned : (slot n values.length).toNat = n.toNat + values.length := by
    rw [toNat_slot]
    omega
  -- the minimum in a slot is never the limit
  have own : ∀ i < values.length, PropertyKey.ofIndex (slot n i) = .decimal (n.toNat + i) := by
    intro i inside
    rw [ofIndex_slot, Nat.min_eq_left (by omega)]
  refine ⟨fun i inside => ?_, fun i _ j _ differs same => ?_, fun k before => ?_, returned, ?_⟩
  · have stored := filled.stored i inside (by omega)
    rw [own i inside] at stored
    exact stored.setOwn_of_ne (lengthKey_ne_decimal _) _
  · have := PropertyKey.decimal_inj.1 same
    omega
  · have apart : ∀ i < values.length, PropertyKey.decimal k ≠ .ofIndex (slot n i) := by
      intro i inside same
      rw [own i inside, PropertyKey.decimal_inj] at same
      omega
    rw [OrdinaryObject.getOwn?_setOwn, if_neg (lengthKey_ne_decimal k), filled.others _ apart]
  · rw [← returned]
    exact p.stores_setOwn lengthKey _ e c

/-- Appending values to an extensible object where nothing refuses an assignment.  It loses nothing
exactly if the new length has 32 bits.  In any case each value is written under its index, except
that the last slot keeps the last value only, and the length counts up to the last slot; all other
properties stay as they are. -/
theorem push_appends_within_limit {r : Realm β} {object : ObjectHandle}
    (live : r.heap.get? object = some o) (extensible : o.extensible = true)
    (bodies : β → Value → List Value → Program β σ Value) (depth : Nat) (state : σ) {n : UInt32}
    {v : World β σ} (read : (lengthOf object).run bodies depth ⟨r, state⟩ = some (.ok n, v))
    (values : List Value) (assignableLength : r.Assignable object lengthKey)
    (assignable : ∀ i < values.length, r.Assignable object (.decimal (n.toNat + i))) :
    ∃ length r' o', (push object values).run bodies depth ⟨r, state⟩ =
        some (.ok length, ⟨r', state⟩) ∧
      r'.heap.get? object = some o' ∧ (∀ h, h ≠ object → r'.heap.get? h = r.heap.get? h) ∧
      (Appended n.toNat values o o' length ↔ n.toNat + values.length < 2 ^ 32) ∧
      length.toNat = min (n.toNat + values.length) (2 ^ 32 - 1) ∧
      o'.Stores lengthKey (.ofUInt32 length) ∧
      (lengthOf object).run bodies depth ⟨r', state⟩ = some (.ok length, ⟨r', state⟩) ∧
      (∀ i (inside : i < values.length), n.toNat + i < 2 ^ 32 - 1 ∨ i + 1 = values.length →
        o'.Stores (.decimal (min (n.toNat + i) (2 ^ 32 - 1))) values[i]) ∧
      ∀ key, key ≠ lengthKey →
        (∀ i < values.length, key ≠ .decimal (min (n.toNat + i) (2 ^ 32 - 1))) →
          o'.getOwn? key = o.getOwn? key := by
  have last : n.toNat ≤ 2 ^ 32 - 1 := Nat.le_pred_of_lt n.toNat_lt
  have assignableSlots : ∀ i < values.length, r.Assignable object (.ofIndex (slot n i)) := by
    intro i inside
    rw [ofIndex_slot]
    -- the last slot is the slot of one of the values if any goes there
    by_cases within : n.toNat + i ≤ 2 ^ 32 - 1
    · rw [Nat.min_eq_left within]
      exact assignable i inside
    · have limit := assignable (2 ^ 32 - 1 - n.toNat) (by omega)
      rw [Nat.add_sub_of_le last] at limit
      rwa [Nat.min_eq_right (by omega)]
  obtain ⟨r', p, e, c, ended, writes, filled⟩ :=
    push_run bodies depth state values live extensible read assignableLength assignableSlots
  have stored := p.stores_setOwn lengthKey (.ofUInt32 (slot n values.length)) e c
  refine ⟨_, r', _, ended, writes.live, writes.others, ⟨fun appended => ?_, filled.appended⟩,
    toNat_slot n values.length, stored,
    run_lengthOf_of_stored bodies depth state writes.live stored,
    fun i inside kept => ?_, fun key notLength apart => ?_⟩
  · -- a length that counts all values is a number of 32 bits
    have returned := appended.returned
    rw [toNat_slot] at returned
    omega
  · have element := filled.stored i inside kept
    rw [ofIndex_slot] at element
    exact element.setOwn_of_ne (lengthKey_ne_decimal _) _
  · rw [OrdinaryObject.getOwn?_setOwn, if_neg notLength.symm]
    refine filled.others key fun i inside => ?_
    rw [ofIndex_slot]
    exact apart i inside

/-- Two values on a new object, which has no length yet. -/
theorem push_onto_new_object :
    let r : Realm Unit := ((ofConfig {}).perform .newObject).2
    let bodies : Unit → Value → List Value → Program Unit Unit Value :=
      fun _ _ _ => pure .undefined
    (lengthOf ⟨5⟩).run bodies 1 ⟨r, ()⟩ = some (.ok 0, ⟨r, ()⟩) ∧
      r.Assignable ⟨5⟩ lengthKey ∧ (∀ i < 2, r.Assignable ⟨5⟩ (.decimal (0 + i))) ∧
      ∃ length r' o', (push ⟨5⟩ [.null, .bool true]).run bodies 1 ⟨r, ()⟩ =
          some (.ok length, ⟨r', ()⟩) ∧
        r'.heap.get? ⟨5⟩ = some o' ∧ length.toNat = 2 ∧ o'.Stores (.decimal 0) .null ∧
        o'.Stores (.decimal 1) (.bool true) := by
  intro r bodies
  obtain ⟨o, live, extensible⟩ : ∃ o, r.heap.get? ⟨5⟩ = some o ∧ o.extensible = true :=
    ⟨_, rfl, rfl⟩
  have noLength : (lengthOf ⟨5⟩).run bodies 1 ⟨r, ()⟩ = some (.ok 0, ⟨r, ()⟩) :=
    run_lengthOf bodies 1 () (r := r) (v := .undefined) rfl
  have assignableLength : r.Assignable ⟨5⟩ lengthKey := ⟨⟨none, none⟩, rfl, rfl⟩
  have assignable : ∀ i < 2, r.Assignable ⟨5⟩ (.decimal (0 + i)) := by
    intro i inside
    obtain rfl | rfl : i = 0 ∨ i = 1 := by omega
    · exact ⟨⟨none, none⟩, rfl, rfl⟩
    · exact ⟨⟨none, none⟩, rfl, rfl⟩
  obtain ⟨length, r', o', ended, live', -, appended, -⟩ :=
    push_appends_within_limit live extensible bodies 1 () noLength [.null, .bool true]
      assignableLength assignable
  have all := appended.2 (by decide)
  exact ⟨noLength, assignableLength, assignable, length, r', o', ended, live', all.returned,
    all.elements 0 (by decide), all.elements 1 (by decide)⟩

/-- Two values on an object whose length is the largest one.  Both go to the last slot, where the
first is lost, and the length stays. -/
theorem push_at_limit_overwrites :
    let r : Realm Unit := (((ofConfig {}).perform .newObject).2.perform
      (.define ⟨5⟩ lengthKey (openFields (.ofUInt32 4294967295)))).2
    let bodies : Unit → Value → List Value → Program Unit Unit Value :=
      fun _ _ _ => pure .undefined
    let values : List Value := [.string "a", .string "b"]
    ∃ o, r.Reachable ∧ r.heap.get? ⟨5⟩ = some o ∧ o.extensible = true ∧
      (lengthOf ⟨5⟩).run bodies 1 ⟨r, ()⟩ = some (.ok 4294967295, ⟨r, ()⟩) ∧
      r.Assignable ⟨5⟩ lengthKey ∧
      (∀ i < values.length, r.Assignable ⟨5⟩ (.decimal (4294967295 + i))) ∧
      ∃ r' o', (push ⟨5⟩ values).run bodies 1 ⟨r, ()⟩ = some (.ok 4294967295, ⟨r', ()⟩) ∧
        r'.heap.get? ⟨5⟩ = some o' ∧ o'.Stores (.decimal 4294967295) (.string "b") ∧
        o'.getOwn? (.decimal 4294967296) = none ∧
        ¬Appended 4294967295 values o o' 4294967295 := by
  intro r bodies values
  obtain ⟨o, live, extensible, stored⟩ : ∃ o, r.heap.get? ⟨5⟩ = some o ∧ o.extensible = true ∧
      o.Stores lengthKey (.ofUInt32 4294967295) := ⟨_, rfl, rfl, true, true, rfl⟩
  have reachable : r.Reachable := ⟨{}, ofConfig {}, rfl, .perform (.perform .refl _) _⟩
  have length := run_lengthOf_of_stored bodies 1 () live stored
  have assignableLength : r.Assignable ⟨5⟩ lengthKey := ⟨_, rfl, rfl⟩
  have assignable : ∀ i < values.length, r.Assignable ⟨5⟩ (.decimal (4294967295 + i)) := by
    intro i inside
    obtain rfl | rfl : i = 0 ∨ i = 1 := by
      have : values.length = 2 := rfl
      omega
    · exact ⟨⟨none, none⟩, rfl, rfl⟩
    · exact ⟨⟨none, none⟩, rfl, rfl⟩
  have lastSlot : ∀ i, PropertyKey.ofIndex (slot 4294967295 i) = .decimal 4294967295 := by
    intro i
    have limit : (4294967295 : UInt32).toNat = 2 ^ 32 - 1 := rfl
    rw [ofIndex_slot, limit, Nat.min_eq_right (Nat.le_add_right ..)]
    rfl
  have newLength : slot 4294967295 values.length = 4294967295 := by decide
  obtain ⟨r', p, e, c, ended, writes, filled⟩ := push_run bodies 1 () values live extensible length
    assignableLength fun i _ => by
      rw [lastSlot]
      exact assignable 0 (by decide)
  rw [newLength] at ended writes
  have second : p.Stores (.decimal 4294967295) (.string "b") := by
    rw [← lastSlot 1]
    exact filled.stored 1 (by decide) (.inr rfl)
  have absent : p.getOwn? (.decimal 4294967296) = none := by
    rw [filled.others _ fun i _ => ?_]
    · cases live
      rfl
    · rw [lastSlot, ne_eq, PropertyKey.decimal_inj]
      decide
  refine ⟨o, reachable, live, extensible, length, assignableLength, assignable, r', _, ended,
    writes.live, second.setOwn_of_ne (lengthKey_ne_decimal _) _, ?_, fun appended => ?_⟩
  · rw [OrdinaryObject.getOwn?_setOwn, if_neg (lengthKey_ne_decimal _), absent]
  · exact absurd appended.returned (by decide)

end ArrayLike

end ObjectModel
