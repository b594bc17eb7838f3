import ObjectModel.Chain
import ObjectModel.Proofs.Object

/-!
# Objects behind handles, properties along chains

What the two operations that change a heap, `alloc?` and `modify`, do to `get?`, and what
`findProperty` finds: a property that the start owns is found at once (`findProperty_of_own`), and
whatever is found belongs to a live object and was found before the walk was cut off
(`findProperty_found`).
-/

namespace ObjectModel.Heap

/-! ## Allocation and modification -/

theorem index_ofNat {n : Nat} (small : n < 2 ^ 32) : (UInt32.ofNat n).toNat = n := by
  rw [UInt32.toNat_ofNat']
  exact Nat.mod_eq_of_lt small

theorem get?_of_alloc {heap heap' : Heap} {o : OrdinaryObject} {h : ObjectHandle}
    (allocated : heap.alloc? o = some (h, heap')) : heap.get? h = none := by
  unfold alloc? at allocated
  split at allocated
  · next room =>
    cases allocated
    rw [get?, index_ofNat room]
    exact Array.getElem?_eq_none (Nat.le_refl _)
  · cases allocated

theorem size_of_alloc?_eq_none {heap : Heap} {o : OrdinaryObject}
    (full : heap.alloc? o = none) : heap.size = 2 ^ 32 := by
  unfold alloc? at full
  split at full
  · cases full
  · next noRoom => exact Nat.le_antisymm heap.size_le (Nat.not_lt.1 noRoom)

theorem get?_alloc {heap heap' : Heap} {o : OrdinaryObject} {h : ObjectHandle}
    (allocated : heap.alloc? o = some (h, heap')) (k : ObjectHandle) :
    heap'.get? k = if k = h then some o else heap.get? k := by
  unfold alloc? at allocated
  split at allocated
  · next room =>
    cases allocated
    have same : k.index.toNat = heap.objects.size ↔ k = ⟨UInt32.ofNat heap.objects.size⟩ := by
      rw [← index_ofNat room, UInt32.toNat_inj, index_ofNat room]
      exact ⟨fun equal => by cases k; cases equal; rfl, fun equal => by cases equal; rfl⟩
    simp only [get?, Array.getElem?_push, same]
  · cases allocated

theorem get?_alloc_of_live {heap heap' : Heap} {o p : OrdinaryObject} {h k : ObjectHandle}
    (allocated : heap.alloc? o = some (h, heap')) (live : heap.get? k = some p) :
    heap'.get? k = some p := by
  rw [get?_alloc allocated, if_neg, live]
  rintro rfl
  rw [get?_of_alloc allocated] at live
  cases live

/-- Only the object that is there matters to a change. -/
theorem modify_eq_replace {heap : Heap} {h : ObjectHandle} {o : OrdinaryObject}
    (live : heap.get? h = some o) (f : OrdinaryObject → OrdinaryObject) :
    heap.modify h f = heap.modify h fun _ => f o := by
  have entries : heap.objects.modify h.index.toNat f =
      heap.objects.modify h.index.toNat fun _ => f o := by
    apply Array.ext_getElem?
    intro i
    rw [Array.getElem?_modify, Array.getElem?_modify]
    split
    · next same => subst same; rw [get?] at live; rw [live]; rfl
    · rfl
  unfold modify
  simp only [entries]

theorem get?_replace_self {heap : Heap} {h : ObjectHandle} {o : OrdinaryObject}
    (live : heap.get? h = some o) (o' : OrdinaryObject) :
    (heap.modify h fun _ => o').get? h = some o' := by
  rw [get?_modify, if_pos rfl, live, Option.map_some]

theorem get?_replace_of_ne {h k : ObjectHandle} (differs : k ≠ h) (heap : Heap)
    (o' : OrdinaryObject) : (heap.modify h fun _ => o').get? k = heap.get? k := by
  rw [get?_modify, if_neg (Ne.symm differs)]

theorem contains_alloc {heap heap' : Heap} {o : OrdinaryObject} {h : ObjectHandle}
    (allocated : heap.alloc? o = some (h, heap')) (k : ObjectHandle) :
    heap'.contains k = true ↔ k = h ∨ heap.contains k = true := by
  rw [contains_iff, contains_iff, get?_alloc allocated]
  by_cases same : k = h
  · simp [same]
  · simp [same]

theorem contains_modify (heap : Heap) (h k : ObjectHandle) (f : OrdinaryObject → OrdinaryObject) :
    (heap.modify h f).contains k = heap.contains k := by
  rw [contains, contains, size, size, modify, Array.size_modify]

theorem forall_of_all {heap : Heap} {test : OrdinaryObject → Bool}
    (all : heap.objects.toList.all test = true) {h : ObjectHandle} {o : OrdinaryObject}
    (live : heap.get? h = some o) : test o = true :=
  List.all_eq_true.1 all o (Array.mem_toList_iff.2 (Array.mem_of_getElem? live))

theorem get_of_live {heap : Heap} {h : ObjectHandle} {o : OrdinaryObject}
    (live : heap.get? h = some o) : heap.get h = .ok o := by
  rw [get, live]

/-- An accepted change of prototype: the new one exists, and a non-extensible object keeps its
own. -/
theorem setPrototype_inv {heap heap' : Heap} {h : ObjectHandle} {prototype : Option ObjectHandle}
    {answer : Bool} (accepted : heap.setPrototype h prototype = .ok (answer, heap')) :
    ∃ o, heap.get? h = some o ∧ (∀ p, prototype = some p → heap.contains p = true) ∧
      (heap' = heap ∨
        (o.extensible = true ∧ heap' = heap.modify h fun o => { o with prototype })) := by
  have exists_ : ∀ p, prototype = some p → heap.contains p = true := by
    rintro p rfl
    rw [contains_iff]
    cases live : heap.get? p with
    | some o => exact ⟨o, rfl⟩
    | none => simp only [setPrototype, get, live, bind, Except.bind] at accepted; cases accepted
  have relinked : (do
      let o ← heap.get h
      if o.extensible then return (true, heap.modify h fun o => { o with prototype })
      else return (o.prototype == prototype, heap)) = Except.ok (answer, heap') := by
    cases prototype with
    | none => exact accepted
    | some p =>
      obtain ⟨q, live⟩ := (contains_iff heap p).1 (exists_ p rfl)
      simp only [setPrototype, get_of_live live] at accepted
      exact accepted
  cases live : heap.get? h with
  | none => rw [get, live] at relinked; cases relinked
  | some o =>
    refine ⟨o, rfl, exists_, ?_⟩
    rw [get_of_live live] at relinked
    cases free : o.extensible with
    | false =>
      simp only [bind, Except.bind, free] at relinked
      cases relinked
      exact .inl rfl
    | true =>
      simp only [bind, Except.bind, free] at relinked
      cases relinked
      exact .inr ⟨rfl, rfl⟩

theorem setPrototype_of_live {heap : Heap} {h : ObjectHandle} {prototype : Option ObjectHandle}
    {o : OrdinaryObject} (live : heap.get? h = some o)
    (exists_ : ∀ p, prototype = some p → heap.contains p = true) :
    ∃ answer heap', heap.setPrototype h prototype = .ok (answer, heap') := by
  have relinked : ∃ answer heap', (do
      let o ← heap.get h
      if o.extensible then return (true, heap.modify h fun o => { o with prototype })
      else return (o.prototype == prototype, heap)) = Except.ok (answer, heap') := by
    rw [get_of_live live]
    cases free : o.extensible with
    | true => exact ⟨true, _, by simp only [bind, Except.bind, free]; rfl⟩
    | false => exact ⟨_, heap, by simp only [bind, Except.bind, free]; rfl⟩
  cases prototype with
  | none => exact relinked
  | some p =>
    obtain ⟨q, pLive⟩ := (contains_iff heap p).1 (exists_ p rfl)
    simp only [setPrototype, get_of_live pLive]
    exact relinked

/-! ## Looking a property up -/

theorem findProperty_of_live {heap : Heap} {start : ObjectHandle} {o : OrdinaryObject}
    (live : heap.get? start = some o) (key : PropertyKey) (maxHops : Nat) :
    ∃ lookup, heap.findProperty start key maxHops = .ok lookup := by
  simp only [findProperty, walkUntil, get_of_live live]
  exact ⟨_, rfl⟩

theorem live_of_findProperty {heap : Heap} {start : ObjectHandle} {key : PropertyKey}
    {maxHops : Nat} {lookup : PropertyLookup}
    (ends : heap.findProperty start key maxHops = .ok lookup) : ∃ o, heap.get? start = some o := by
  cases live : heap.get? start with
  | some o => exact ⟨o, rfl⟩
  | none => simp only [findProperty, walkUntil, get, live] at ends; cases ends

theorem findProperty_of_own {heap : Heap} {start : ObjectHandle} {o : OrdinaryObject}
    {key : PropertyKey} {p : PropertyDescriptor} (live : heap.get? start = some o)
    (owned : o.getOwn? key = some p) (maxHops : Nat) :
    heap.findProperty start key maxHops = .ok ⟨some (start, p), none⟩ := by
  have stop : o.hasOwn key = true := (o.hasOwn_iff key).2 ⟨p, owned⟩
  simp only [findProperty, walkUntil, get_of_live live, walkFrom, List.not_mem_nil, if_false, live,
    stop, if_true, bind, Except.bind, pure, Except.pure, List.findSome?_cons, owned,
    Option.map_some]

/-- A search that ends elsewhere has shown that the start does not own the key. -/
theorem getOwn?_of_found_elsewhere {heap : Heap} {start : ObjectHandle} {o : OrdinaryObject}
    {key : PropertyKey} {maxHops : Nat} {lookup : PropertyLookup}
    (live : heap.get? start = some o) (ends : heap.findProperty start key maxHops = .ok lookup)
    (elsewhere : ∀ p, lookup.found ≠ some (start, p)) : o.getOwn? key = none := by
  cases owned : o.getOwn? key with
  | none => rfl
  | some p =>
    rw [findProperty_of_own live owned] at ends
    cases ends
    exact absurd rfl (elsewhere p)

/-- What a search finds is a property of a live object, and ends the walk before it is cut off. -/
theorem walkFrom_found {heap : Heap} {key : PropertyKey} {left : Nat} {seen : List ObjectHandle}
    {link : Option ObjectHandle} {owner : ObjectHandle} {p : PropertyDescriptor}
    (found : (heap.walkFrom (·.hasOwn key) left seen link).visited.findSome?
      (fun (h, o) => (o.getOwn? key).map (h, ·)) = some (owner, p)) :
    (∃ o, heap.get? owner = some o ∧ o.getOwn? key = some p) ∧
      (heap.walkFrom (·.hasOwn key) left seen link).truncation = none := by
  fun_induction walkFrom heap (·.hasOwn key) left seen link with
  | case1 | case2 | case3 | case4 => cases found
  -- the object that stops the walk owns the key, and none before it does
  | case5 seen h fresh left o live stop =>
    obtain ⟨q, owned⟩ := (o.hasOwn_iff key).1 stop
    simp only [List.findSome?_cons, owned, Option.map_some, Option.some.injEq,
      Prod.mk.injEq] at found
    obtain ⟨rfl, rfl⟩ := found
    exact ⟨⟨o, live, owned⟩, rfl⟩
  | case6 seen h fresh left o live goesOn rest ih =>
    have absent : o.getOwn? key = none := (o.hasOwn_eq_false_iff key).1 (by simpa using goesOn)
    simp only [List.findSome?_cons, absent, Option.map_none] at found
    exact ih found

theorem findProperty_found {heap : Heap} {start owner : ObjectHandle} {key : PropertyKey}
    {maxHops : Nat} {lookup : PropertyLookup} {p : PropertyDescriptor}
    (ends : heap.findProperty start key maxHops = .ok lookup)
    (found : lookup.found = some (owner, p)) :
    (∃ o, heap.get? owner = some o ∧ o.getOwn? key = some p) ∧ lookup.truncation = none := by
  simp only [findProperty, walkUntil, bind, Except.bind, pure, Except.pure] at ends
  cases live : heap.get start with
  | error e => rw [live] at ends; cases ends
  | ok o =>
    rw [live] at ends
    cases ends
    exact walkFrom_found found

end ObjectModel.Heap
