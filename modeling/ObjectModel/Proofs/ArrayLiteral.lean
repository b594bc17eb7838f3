import ObjectModel.Proofs.KeyOrder
import ObjectModel.Proofs.Push

/-!
# New arrays

A new array has a length and nothing else (`newArray_run`), and an element that is defined under an
index that it does not have yet comes last among its properties (`HoldsArray.define`).  So the
properties of an array that is filled in ascending order are its length and then its elements
(`OrdinaryObject.HoldsArray`), which gives every reader of it.

`literal_reads_back` is this for array literals, where the holes are passed over.
-/

namespace ObjectModel

variable {β σ : Type}

open ArrayLike

namespace OrdinaryObject

/-- An array of the given length.  Its other properties are open elements, in the order in which
they came. -/
structure HoldsArray (o : OrdinaryObject) (length : UInt32) (elements : List (Nat × Value)) :
    Prop where
  extensible : o.extensible = true
  classTag : o.classTag = some "Array"
  entries : o.properties.entries = (lengthKey, .data (.ofUInt32 length) true false false) ::
    elements.map fun e => (.decimal e.1, .openData e.2)

variable {o : OrdinaryObject} {length : UInt32} {elements : List (Nat × Value)}

namespace HoldsArray

theorem keys (holds : o.HoldsArray length elements) :
    o.properties.keys = lengthKey :: (elements.map Prod.fst).map .decimal := by
  rw [OrderedMap.keys, holds.entries, List.map_cons, List.map_map, List.map_map]
  rfl

theorem getOwn?_length (holds : o.HoldsArray length elements) :
    o.getOwn? lengthKey = some (.data (.ofUInt32 length) true false false) := by
  rw [getOwn?, OrderedMap.get?_eq_some_iff_mem, holds.entries]
  exact List.mem_cons_self

theorem getOwn?_eq_some_iff (holds : o.HoldsArray length elements) {k : Nat}
    {p : PropertyDescriptor} :
    o.getOwn? (.decimal k) = some p ↔ ∃ v, (k, v) ∈ elements ∧ .openData v = p := by
  rw [getOwn?, OrderedMap.get?_eq_some_iff_mem, holds.entries, List.mem_cons, List.mem_map]
  constructor
  · rintro (isLength | ⟨⟨i, v⟩, member, same⟩)
    · exact absurd (congrArg Prod.fst isLength).symm (lengthKey_ne_decimal k)
    · simp only [Prod.mk.injEq, PropertyKey.decimal_inj] at same
      exact ⟨v, same.1 ▸ member, same.2⟩
  · rintro ⟨v, member, rfl⟩
    exact .inr ⟨(k, v), member, rfl⟩

theorem getOwn?_eq_none_iff (holds : o.HoldsArray length elements) {k : Nat} :
    o.getOwn? (.decimal k) = none ↔ k ∉ elements.map Prod.fst := by
  rw [getOwn?, OrderedMap.get?_eq_none_iff, holds.keys, List.mem_cons, not_or]
  have injective : Function.Injective PropertyKey.decimal := fun _ _ => PropertyKey.decimal_inj.1
  rw [List.mem_map_of_injective injective]
  exact and_iff_right (lengthKey_ne_decimal k).symm

/-- A new element is accepted, and comes last. -/
theorem define (holds : o.HoldsArray length elements) {k : Nat}
    (new : k ∉ elements.map Prod.fst) (v : Value) :
    ∃ o', o.define (.decimal k) (openFields v) = .ok (.created, o') ∧
      o'.HoldsArray length (elements ++ [(k, v)]) := by
  have absent := holds.getOwn?_eq_none_iff.2 new
  have accepted : o.properties.define o.extensible (.decimal k) (openFields v) =
      .ok (.created, o.properties.insert (.decimal k) (.openData v)) := by
    rw [holds.extensible]
    exact PropertyTable.define_ofDescriptor_absent absent (.openData v)
  refine ⟨o.setOwn (.decimal k) (.openData v), ?_, holds.extensible, holds.classTag, ?_⟩
  · rw [OrdinaryObject.define, accepted]
    rfl
  · have last : OrderedMap.insertEntry (.decimal k) (PropertyDescriptor.openData v)
        o.properties.entries = o.properties.entries ++ [(.decimal k, .openData v)] :=
      OrderedMap.insertEntry_of_absent ((OrderedMap.get?_eq_none_iff _ _).1 absent)
    refine last.trans ?_
    rw [holds.entries, List.map_append]
    rfl

end HoldsArray

/-! ### Keys -/

/-- Array indices in ascending order. -/
structure Ascending (indices : List Nat) : Prop where
  sorted : indices.Pairwise (· < ·)
  small : ∀ k ∈ indices, k < 2 ^ 32 - 1

namespace Ascending

variable {indices : List Nat}

/-- The indices are sorted as they come. -/
theorem sortedIndices (ascending : Ascending indices) :
    PropertyTable.sortedIndices (lengthKey :: indices.map .decimal) =
      indices.map fun k => (UInt32.ofNat k, .decimal k) := by
  have noIndex : lengthKey.arrayIndex? = none := by decide
  have indexed : ((indices.map PropertyKey.decimal).filterMap fun key =>
      key.arrayIndex?.map (·, key)) = indices.map fun k => (UInt32.ofNat k, .decimal k) := by
    rw [List.filterMap_map, ← List.filterMap_eq_map]
    refine List.filterMap_congr fun k member => ?_
    simp [PropertyKey.arrayIndex?_decimal (ascending.small k member)]
  rw [PropertyTable.sortedIndices, List.filterMap_cons_none (by rw [noIndex, Option.map_none]),
    indexed]
  refine List.mergeSort_of_pairwise (List.pairwise_map.2 (ascending.sorted.imp_of_mem ?_))
  intro k l memberK memberL below
  have smallK := ascending.small k memberK
  have smallL := ascending.small l memberL
  rw [decide_eq_true_iff, UInt32.le_iff_toNat_le, Heap.index_ofNat (by omega),
    Heap.index_ofNat (by omega)]
  exact below.le

theorem otherKeys (ascending : Ascending indices) :
    (lengthKey :: indices.map .decimal).filter (fun key => !key.isArrayIndex) = [lengthKey] := by
  have noIndex : lengthKey.isArrayIndex = false := by decide
  have others : (indices.map PropertyKey.decimal).filter (fun key => !key.isArrayIndex) = [] := by
    rw [List.filter_eq_nil_iff]
    intro key listed
    obtain ⟨k, member, rfl⟩ := List.mem_map.1 listed
    rw [PropertyKey.isArrayIndex, PropertyKey.arrayIndex?_decimal (ascending.small k member)]
    exact Bool.false_ne_true
  rw [List.filter_cons_of_pos (by rw [noIndex]; rfl), others]

end Ascending

/-- Scripts see the elements, and then the length. -/
theorem HoldsArray.ownKeys (holds : o.HoldsArray length elements)
    (ascending : Ascending (elements.map Prod.fst)) :
    o.ownKeys = (elements.map Prod.fst).map .decimal ++ [lengthKey] := by
  rw [OrdinaryObject.ownKeys, PropertyTable.keysInOrder, holds.keys, ascending.sortedIndices,
    ascending.otherKeys, List.map_map]
  rfl

theorem HoldsArray.ownEnumerableKeys (holds : o.HoldsArray length elements)
    (ascending : Ascending (elements.map Prod.fst)) :
    o.ownEnumerableKeys = (elements.map Prod.fst).map .decimal := by
  have hidden : (o.getOwn? lengthKey).any PropertyDescriptor.isEnumerable = false := by
    rw [holds.getOwn?_length]
    rfl
  have shown : ∀ key ∈ (elements.map Prod.fst).map PropertyKey.decimal,
      (o.getOwn? key).any PropertyDescriptor.isEnumerable = true := by
    intro key listed
    obtain ⟨k, index, rfl⟩ := List.mem_map.1 listed
    obtain ⟨e, member, rfl⟩ := List.mem_map.1 index
    rw [holds.getOwn?_eq_some_iff.2 ⟨e.2, member, rfl⟩]
    rfl
  show o.ownKeys.filter (fun key => (o.getOwn? key).any PropertyDescriptor.isEnumerable) = _
  rw [holds.ownKeys ascending, List.filter_append, List.filter_eq_self.2 shown,
    List.filter_cons_of_neg (by rw [Bool.not_eq_true]; exact hidden), List.filter_nil,
    List.append_nil]

end OrdinaryObject

namespace ArrayLike

/-! ## Runs -/

variable {r : Realm β} {array : ObjectHandle} {o : OrdinaryObject} {length : UInt32}
  {elements : List (Nat × Value)}
  (bodies : β → Value → List Value → Program β σ Value) (depth : Nat) (state : σ)

theorem run_allocate (prototype : Option ObjectHandle) (classTag : String) (r : Realm β) :
    (Program.allocate prototype classTag : Program β σ _).run bodies depth ⟨r, state⟩ =
      (r.heap.alloc? (.tagged prototype classTag)).map
        fun made => (.ok made.1, ⟨{ r with heap := made.2 }, state⟩) :=
  Program.run_request_alloc (q := .allocate prototype classTag) id rfl bodies depth state

/-- The array holds the elements, all of them under indices below the given one. -/
def FilledBelow (r : Realm β) (array : ObjectHandle) (length : UInt32) (index : Nat)
    (elements : List (Nat × Value)) : Prop :=
  ∃ o, r.heap.get? array = some o ∧ o.HoldsArray length elements ∧ ∀ e ∈ elements, e.1 < index

theorem FilledBelow.succ {index : Nat} (filled : FilledBelow r array length index elements) :
    FilledBelow r array length (index + 1) elements := by
  obtain ⟨o, live, holds, below⟩ := filled
  exact ⟨o, live, holds, fun e member => Nat.lt_succ_of_lt (below e member)⟩

/-- An element that is defined behind the others comes last. -/
theorem run_define_element {index : Nat} (filled : FilledBelow r array length index elements)
    (v : Value) :
    ∃ r', (Program.define array (.decimal index) (openFields v)).run bodies depth ⟨r, state⟩ =
        some (.ok .created, ⟨r', state⟩) ∧
      FilledBelow r' array length (index + 1) (elements ++ [(index, v)]) ∧
      ∀ h, h ≠ array → r'.heap.get? h = r.heap.get? h := by
  obtain ⟨o, live, holds, below⟩ := filled
  have new : index ∉ elements.map Prod.fst := by
    intro member
    obtain ⟨e, member, same⟩ := List.mem_map.1 member
    exact (below e member).ne same
  obtain ⟨o', accepted, holds'⟩ := holds.define new v
  refine ⟨_, Program.run_define (Realm.define_of_accepted live rfl accepted),
    ⟨o', Heap.get?_replace_self live o', holds', fun e member => ?_⟩,
    fun h other => Heap.get?_replace_of_ne other r.heap o'⟩
  obtain earlier | last := List.mem_append.1 member
  · exact Nat.lt_succ_of_lt (below e earlier)
  · rw [List.mem_singleton.1 last]
    exact Nat.lt_succ_self index

/-- A new array: nothing that was there changes.  The only other end is that the heap has no handle
left. -/
theorem newArray_run (length : UInt32) (r : Realm β) :
    match (newArray length).run bodies depth ⟨r, state⟩ with
    | none => r.heap.size = 2 ^ 32
    | some (result, w) =>
      w.host = state ∧ ∃ array o, result = .ok array ∧ r.heap.get? array = none ∧
        w.realm.heap.get? array = some o ∧ o.HoldsArray length [] ∧
        ∀ h, h ≠ array → w.realm.heap.get? h = r.heap.get? h := by
  show match ((Program.allocate (some r.intrinsics.arrayPrototype) "Array").andThen fun array =>
    (Program.define array lengthKey (.ofDescriptor (.data (.ofUInt32 length) true false false))
      ).andThen fun _ => .done (.ok array)).run bodies depth ⟨r, state⟩ with
    | none => _
    | some (result, w) => _
  rw [Program.run_andThen, run_allocate]
  cases allocated : r.heap.alloc? (.tagged (some r.intrinsics.arrayPrototype) "Array") with
  | none => exact Heap.size_of_alloc?_eq_none allocated
  | some found =>
    obtain ⟨array, heap⟩ := found
    generalize made : OrdinaryObject.tagged (some r.intrinsics.arrayPrototype) "Array" = o
      at allocated
    have live : heap.get? array = some o := by
      rw [Heap.get?_alloc allocated, if_pos rfl]
    have accepted : o.define lengthKey (.ofDescriptor (.data (.ofUInt32 length) true false false)) =
        .ok (.created, o.setOwn lengthKey (.data (.ofUInt32 length) true false false)) := by
      subst made
      rfl
    have holds : (o.setOwn lengthKey (.data (.ofUInt32 length) true false false)).HoldsArray
        length [] := by
      subst made
      exact ⟨rfl, rfl, rfl⟩
    have answered := Realm.define_of_accepted (r := { r with heap }) live rfl accepted
    simp only [Option.map_some, Option.bind_some, Program.run_andThen, Program.run_define answered]
    refine ⟨rfl, array, _, rfl, Heap.get?_of_alloc allocated, Heap.get?_replace_self live _, holds,
      fun h other => ?_⟩
    exact (Heap.get?_replace_of_ne other heap _).trans
      (by rw [Heap.get?_alloc allocated, if_neg other])

/-! ## Elements with holes -/

/-- The elements that are no holes, each with its index. -/
def present (elements : List (Option Value)) (index : Nat) : List (Nat × Value) :=
  (elements.zipIdx index).filterMap fun e => e.1.map (e.2, ·)

theorem present_none (rest : List (Option Value)) (index : Nat) :
    present (none :: rest) index = present rest (index + 1) := rfl

theorem present_some (v : Value) (rest : List (Option Value)) (index : Nat) :
    present (some v :: rest) index = (index, v) :: present rest (index + 1) := rfl

theorem mem_present {elements : List (Option Value)} {k : Nat} {v : Value} :
    (k, v) ∈ present elements 0 ↔ elements[k]? = some (some v) := by
  rw [← List.mk_mem_zipIdx_iff_getElem?, present, List.mem_filterMap]
  constructor
  · rintro ⟨⟨element, index⟩, member, shown⟩
    obtain ⟨_, rfl, same⟩ := Option.map_eq_some_iff.1 shown
    cases same
    exact member
  · exact fun member => ⟨_, member, rfl⟩

theorem present_ascending {elements : List (Option Value)} (short : elements.length < 2 ^ 32) :
    OrdinaryObject.Ascending ((present elements 0).map Prod.fst) where
  sorted := by
    have counted : (elements.zipIdx 0).Pairwise fun e f => e.2 < f.2 := by
      rw [← List.pairwise_map, List.zipIdx_map_snd]
      exact List.pairwise_lt_range'
    rw [List.pairwise_map]
    refine counted.filterMap _ ?_
    intro e f below p hp q hq
    obtain ⟨_, -, rfl⟩ := Option.map_eq_some_iff.1 hp
    obtain ⟨_, -, rfl⟩ := Option.map_eq_some_iff.1 hq
    exact below
  small k index := by
    obtain ⟨e, member, rfl⟩ := List.mem_map.1 index
    have inside := (List.getElem?_eq_some_iff.1 (mem_present.1 member)).1
    omega

theorem defineElements_run (rest : List (Option Value)) (index : Nat)
    (filled : FilledBelow r array length index elements) (short : index + rest.length < 2 ^ 32) :
    ∃ r', (defineElements array index rest).run bodies depth ⟨r, state⟩ =
        some (.ok (), ⟨r', state⟩) ∧
      FilledBelow r' array length (index + rest.length) (elements ++ present rest index) ∧
      ∀ h, h ≠ array → r'.heap.get? h = r.heap.get? h := by
  induction rest generalizing r elements index with
  | nil =>
    refine ⟨r, rfl, ?_, fun _ _ => rfl⟩
    rwa [present, List.zipIdx_nil, List.filterMap_nil, List.append_nil]
  | cons element rest ih =>
    rw [List.length_cons] at short
    have last : index + (element :: rest).length = index + 1 + rest.length := by
      rw [List.length_cons]
      omega
    rw [last]
    cases element with
    | none =>
      rw [present_none]
      exact ih (index + 1) filled.succ (by omega)
    | some v =>
      obtain ⟨r₁, ended, filled₁, others₁⟩ := run_define_element bodies depth state filled v
      obtain ⟨r', ended', filled', others⟩ := ih (index + 1) filled₁ (by omega)
      refine ⟨r', ?_, ?_, fun h other => (others h other).trans (others₁ h other)⟩
      · have key : PropertyKey.ofIndex (UInt32.ofNat index) = .decimal index := by
          rw [PropertyKey.ofIndex_eq_decimal, Heap.index_ofNat (by omega)]
        show ((Program.define array (.ofIndex (UInt32.ofNat index)) (openFields v)).andThen
          fun _ => defineElements array (index + 1) rest).run bodies depth ⟨r, state⟩ = _
        rw [key, Program.run_andThen, ended]
        exact ended'
      · rwa [present_some, ← List.singleton_append, ← List.append_assoc]

/-! ## Reading back -/

/-- What scripts find in an array of some elements: the elements that are no holes, in ascending
order, and the length, which is not enumerable. -/
structure ReadsBack (o : OrdinaryObject) (elements : List (Option Value)) : Prop where
  keys : ∃ indices : List Nat, indices.Pairwise (· < ·) ∧
    (∀ k, k ∈ indices ↔ ∃ v, elements[k]? = some (some v)) ∧
    o.ownKeys = indices.map .decimal ++ [lengthKey] ∧
    o.ownEnumerableKeys = indices.map .decimal
  present : ∀ k v, elements[k]? = some (some v) → o.getOwn? (.decimal k) = some (.openData v)
  holes : ∀ k, elements[k]? = some none → o.getOwn? (.decimal k) = none

theorem mem_indices_present {elements : List (Option Value)} {k : Nat} :
    k ∈ (present elements 0).map Prod.fst ↔ ∃ v, elements[k]? = some (some v) := by
  rw [List.mem_map]
  constructor
  · rintro ⟨e, member, rfl⟩
    exact ⟨e.2, mem_present.1 member⟩
  · rintro ⟨v, there⟩
    exact ⟨(k, v), mem_present.2 there, rfl⟩

theorem readsBack_of_holdsArray {elements : List (Option Value)}
    (holds : o.HoldsArray length (present elements 0)) (short : elements.length < 2 ^ 32) :
    ReadsBack o elements where
  keys :=
    ⟨_, (present_ascending short).sorted, fun _ => mem_indices_present,
      holds.ownKeys (present_ascending short), holds.ownEnumerableKeys (present_ascending short)⟩
  present _ v there := holds.getOwn?_eq_some_iff.2 ⟨v, mem_present.2 there, rfl⟩
  holes k hole := by
    rw [holds.getOwn?_eq_none_iff, mem_indices_present]
    rintro ⟨v, there⟩
    cases hole.symm.trans there

theorem run_isArray (live : r.heap.get? array = some o) (holds : o.HoldsArray length elements) :
    (isArray array).run bodies depth ⟨r, state⟩ = some (.ok true, ⟨r, state⟩) := by
  show ((Program.object array).andThen fun o => .done (.ok (o.classTag == some "Array"))).run
    bodies depth ⟨r, state⟩ = _
  have found : (Program.object array).run bodies depth ⟨r, state⟩ = some (.ok o, ⟨r, state⟩) :=
    congrArg (fun answer => some (answer, (⟨r, state⟩ : World β σ))) (Heap.get_of_live live)
  rw [Program.run_andThen, found]
  simp only [Option.bind_some, holds.classTag]
  rfl

theorem elementTexts_run (values : List Value) {index : Nat} (texts : List String)
    (reads : ∀ i v, values[i]? = some v →
      r.get array (.ofIndex (UInt32.ofNat (index + i))) (.object array) = (.done (.ok v), r)) :
    (elementTexts array values.length index texts).run bodies depth ⟨r, state⟩ =
      some (.ok ((values.map elementText).reverse ++ texts), ⟨r, state⟩) := by
  induction values generalizing index texts with
  | nil => rfl
  | cons v rest ih =>
    have first : (Program.getValue array (.ofIndex (UInt32.ofNat index))).run bodies depth
        ⟨r, state⟩ = some (.ok v, ⟨r, state⟩) :=
      Program.run_request_done (q := .get array (.ofIndex (UInt32.ofNat index)) (.object array))
        (reads 0 v rfl) bodies depth state
    show ((Program.getValue array (.ofIndex (UInt32.ofNat index))).andThen fun v =>
      elementTexts array rest.length (index + 1) (elementText v :: texts)).run bodies depth
        ⟨r, state⟩ = _
    rw [Program.run_andThen, first]
    refine (ih (elementText v :: texts) fun i w there => ?_).trans ?_
    · rw [Nat.add_right_comm]
      exact reads (i + 1) w there
    · simp

/-- An array without holes is joined from its own elements alone. -/
theorem join_run {values : List Value} (live : r.heap.get? array = some o)
    (holds : o.HoldsArray length (present (values.map some) 0))
    (counted : length.toNat = values.length) (separator : Option String) :
    (join array separator).run bodies depth ⟨r, state⟩ =
      some (.ok ((separator.getD ",").intercalate (values.map elementText)), ⟨r, state⟩) := by
  have read := run_lengthOf_of_stored bodies depth state live ⟨false, false, holds.getOwn?_length⟩
  have reads : ∀ i v, values[i]? = some v →
      r.get array (.ofIndex (UInt32.ofNat (0 + i))) (.object array) = (.done (.ok v), r) := by
    intro i v there
    have inside := (List.getElem?_eq_some_iff.1 there).1
    have small : length.toNat < 2 ^ 32 := length.toNat_lt
    have member : (i, v) ∈ present (values.map some) 0 :=
      mem_present.2 (by rw [List.getElem?_map, there, Option.map_some])
    rw [Nat.zero_add, PropertyKey.ofIndex_eq_decimal, Heap.index_ofNat (by omega)]
    exact Realm.get_own_data live (holds.getOwn?_eq_some_iff.2 ⟨v, member, rfl⟩) _
  show ((lengthOf array).andThen fun length =>
    (elementTexts array length.toNat 0 []).andThen fun texts =>
      .done (.ok ((separator.getD ",").intercalate texts.reverse))).run bodies depth ⟨r, state⟩ = _
  rw [Program.run_andThen, read]
  simp only [Option.bind_some]
  rw [Program.run_andThen, counted, elementTexts_run bodies depth state values [] reads]
  simp only [Option.bind_some, List.append_nil, List.reverse_reverse]
  rfl

theorem elementText_eq (v : Value) :
    elementText v = if v = .undefined ∨ v = .null then "" else v.toText := by
  cases v <;> rfl

/-- An array literal makes a new array from which scripts read back what was written: its length,
its keys and its elements, and, if there are no holes, the joined text.  The text is that of the
elements in every world that has the array as it was made, so it does not depend on any prototype.
Nothing that was there changes.  The only other end is that the heap has no handle left. -/
theorem literal_reads_back (elements : List (Option Value)) (short : elements.length < 2 ^ 32)
    (bodies : β → Value → List Value → Program β σ Value) (depth : Nat) (r : Realm β) (state : σ) :
    match (createWithHoles elements).run bodies depth ⟨r, state⟩ with
    | none => r.heap.size = 2 ^ 32
    | some (result, w) =>
      w.host = state ∧ ∃ array o, result = .ok array ∧ r.heap.get? array = none ∧
        w.realm.heap.get? array = some o ∧
        (∀ h, h ≠ array → w.realm.heap.get? h = r.heap.get? h) ∧
        (isArray array).run bodies depth w = some (.ok true, w) ∧
        (∃ length : UInt32, length.toNat = elements.length ∧
          (lengthOf array).run bodies depth w = some (.ok length, w)) ∧
        ReadsBack o elements ∧
        ∀ values : List Value, elements = values.map some →
          ∀ (separator : Option String) (v : World β σ), v.realm.heap.get? array = some o →
            (join array separator).run bodies depth v =
              some (.ok ((separator.getD ",").intercalate (values.map fun v =>
                if v = .undefined ∨ v = .null then "" else v.toText)), v) := by
  have counted : (UInt32.ofNat elements.length).toNat = elements.length := Heap.index_ofNat short
  show match ((newArray (UInt32.ofNat elements.length)).andThen fun array =>
    (defineElements array 0 elements).andThen fun _ => .done (.ok array)).run bodies depth
      ⟨r, state⟩ with
    | none => _
    | some (result, w) => _
  rw [Program.run_andThen]
  have made := newArray_run bodies depth state (UInt32.ofNat elements.length) r
  generalize (newArray (UInt32.ofNat elements.length)).run bodies depth ⟨r, state⟩ = run at made ⊢
  cases run with
  | none => exact made
  | some ended =>
    obtain ⟨result, ⟨r₁, host⟩⟩ := ended
    obtain ⟨rfl, array, o₁, rfl, fresh, live₁, holds₁, others₁⟩ := made
    obtain ⟨r₂, ran, ⟨o, live, holds, -⟩, others⟩ := defineElements_run bodies depth host elements
      0 ⟨o₁, live₁, holds₁, List.forall_mem_nil _⟩ (by omega)
    rw [List.nil_append] at holds
    simp only [Option.bind_some, Program.run_andThen, ran]
    have read := run_lengthOf_of_stored bodies depth host live
      ⟨false, false, holds.getOwn?_length⟩
    refine ⟨rfl, array, o, rfl, fresh, live, fun h other => (others h other).trans
      (others₁ h other), run_isArray bodies depth host live holds, ⟨_, counted, read⟩,
      readsBack_of_holdsArray holds short, ?_⟩
    rintro values rfl separator ⟨r', host'⟩ live'
    have length := counted.trans (List.length_map some)
    rw [join_run bodies depth host' live' holds length separator, funext elementText_eq]

/-- An array with a hole, in a new realm. -/
theorem literal_with_hole :
    let elements : List (Option Value) := [some .null, none, some (.bool true)]
    let bodies : Unit → Value → List Value → Program Unit Unit Value :=
      fun _ _ _ => pure .undefined
    elements.length < 2 ^ 32 ∧ ∃ array o w,
      (createWithHoles elements).run bodies 1 ⟨Realm.ofConfig {}, ()⟩ = some (.ok array, w) ∧
      w.realm.heap.get? array = some o ∧ o.getOwn? (.decimal 0) = some (.openData .null) ∧
      o.getOwn? (.decimal 1) = none ∧ o.getOwn? (.decimal 2) = some (.openData (.bool true)) := by
  intro elements bodies
  have short : elements.length < 2 ^ 32 := by decide
  have room : (Realm.ofConfig {} : Realm Unit).heap.size ≠ 2 ^ 32 := by decide
  have back := literal_reads_back elements short bodies 1 (.ofConfig {}) ()
  generalize (createWithHoles elements).run bodies 1 ⟨Realm.ofConfig {}, ()⟩ = run at back ⊢
  cases run with
  | none => exact absurd back room
  | some ended =>
    obtain ⟨result, w⟩ := ended
    obtain ⟨-, array, o, rfl, -, live, -, -, -, readsBack, -⟩ := back
    exact ⟨short, array, o, w, rfl, live, readsBack.present 0 _ rfl, readsBack.holes 1 rfl,
      readsBack.present 2 _ rfl⟩

end ArrayLike

end ObjectModel
