import ObjectModel.Proofs.Heap

/-!
# Searches along whole walks

A search for a key is a walk with a stopping rule, so it can be read off the walk of the whole
chain: it finds the nearest owner among the objects of that walk, and where it finds nothing it was
cut off as that walk was (`findProperty_of_walk`).  A walk visits live objects, each once
(`walkFrom_live`, `walkFrom_fresh`).

A search for a key sees of each object its link and its own property under the key, so it ends in
the same way in two heaps that agree on these (`findProperty_congr`).
-/

namespace ObjectModel

namespace Walk

/-- The nearest owner of a key among objects in the order of a walk, with its property. -/
def nearest? (key : PropertyKey) (visited : List (ObjectHandle × OrdinaryObject)) :
    Option (ObjectHandle × PropertyDescriptor) :=
  visited.findSome? fun (h, o) => (o.getOwn? key).map (h, ·)

variable {key : PropertyKey} {h : ObjectHandle} {o : OrdinaryObject}
  {rest : List (ObjectHandle × OrdinaryObject)}

theorem nearest?_cons_of_own {p : PropertyDescriptor} (owned : o.getOwn? key = some p) :
    nearest? key ((h, o) :: rest) = some (h, p) := by
  simp only [nearest?, List.findSome?_cons, owned, Option.map_some]

theorem nearest?_cons_of_absent (absent : o.getOwn? key = none) :
    nearest? key ((h, o) :: rest) = nearest? key rest := by
  simp only [nearest?, List.findSome?_cons, absent, Option.map_none]

/-- The nearest owner is among the objects. -/
theorem mem_of_nearest? {visited : List (ObjectHandle × OrdinaryObject)} {owner : ObjectHandle}
    {p : PropertyDescriptor} (nearest : nearest? key visited = some (owner, p)) :
    ∃ o, (owner, o) ∈ visited ∧ o.getOwn? key = some p := by
  obtain ⟨⟨h, o⟩, member, owned⟩ := List.exists_of_findSome?_eq_some nearest
  obtain ⟨q, owned, same⟩ := Option.map_eq_some_iff.1 owned
  cases same
  exact ⟨o, member, owned⟩

end Walk

namespace Heap

variable {heap : Heap}

/-! ## The objects of a walk -/

theorem walkFrom_live {stop : OrdinaryObject → Bool} {left : Nat} {seen : List ObjectHandle}
    {link : Option ObjectHandle} {h : ObjectHandle} {o : OrdinaryObject}
    (visited : (h, o) ∈ (heap.walkFrom stop left seen link).visited) : heap.get? h = some o := by
  fun_induction walkFrom heap stop left seen link with
  | case1 | case2 | case3 | case4 => cases visited
  | case5 seen k fresh left p live stops =>
    cases List.mem_singleton.1 visited
    exact live
  | case6 seen k fresh left p live goesOn rest ih =>
    obtain same | later := List.mem_cons.1 visited
    · cases same
      exact live
    · exact ih later

/-- A walk visits no object twice, and none that was visited before it. -/
theorem walkFrom_fresh (heap : Heap) (stop : OrdinaryObject → Bool) (left : Nat)
    (seen : List ObjectHandle) (link : Option ObjectHandle) :
    (∀ h ∈ (heap.walkFrom stop left seen link).handles, h ∉ seen) ∧
      (heap.walkFrom stop left seen link).handles.Nodup := by
  fun_induction walkFrom heap stop left seen link with
  | case1 | case2 | case3 | case4 => simp [Walk.handles]
  | case5 seen k fresh => simpa [Walk.handles] using fresh
  | case6 seen k fresh left p live goesOn rest ih =>
    obtain ⟨unseen, nodup⟩ := ih
    -- the rest of the walk counts the present object as visited
    have absent : k ∉ rest.handles := fun member => unseen k member List.mem_cons_self
    constructor
    · intro h visited
      obtain rfl | later := List.mem_cons.1 visited
      · exact fresh
      · exact fun before => unseen h later (List.mem_cons_of_mem _ before)
    · exact List.nodup_cons.2 ⟨absent, nodup⟩

/-! ## A search and the walk of the whole chain -/

/-- A search finds what the whole walk shows first, and is cut off where the whole walk is unless
it has found something. -/
theorem walkFrom_hasOwn (heap : Heap) (key : PropertyKey) (left : Nat) (seen : List ObjectHandle)
    (link : Option ObjectHandle) :
    let search := heap.walkFrom (·.hasOwn key) left seen link
    let whole := heap.walkFrom (fun _ => false) left seen link
    Walk.nearest? key search.visited = Walk.nearest? key whole.visited ∧
      (Walk.nearest? key whole.visited = none → search.truncation = whole.truncation) := by
  fun_induction walkFrom heap (fun _ => false) left seen link with
  | case1 left seen => simp [walkFrom]
  | case2 left seen h member => unfold walkFrom; simp [member]
  | case3 seen h fresh => simp [walkFrom, fresh]
  | case4 seen h fresh left missing => simp [walkFrom, fresh, missing]
  | case5 seen h fresh left o live stop => cases stop
  | case6 seen h fresh left o live goesOn rest ih =>
    obtain ⟨nearest, cut⟩ := ih
    cases owned : o.getOwn? key with
    | some p =>
      have stops : o.hasOwn key = true := (o.hasOwn_iff key).2 ⟨p, owned⟩
      simp only [walkFrom, if_neg fresh, live, stops, if_true, Walk.nearest?_cons_of_own owned]
      exact ⟨trivial, fun absent => absurd absent (Option.some_ne_none _)⟩
    | none =>
      have passes : o.hasOwn key = false := (o.hasOwn_eq_false_iff key).2 owned
      simp only [walkFrom, if_neg fresh, live, passes, Bool.false_eq_true, if_false,
        Walk.nearest?_cons_of_absent owned]
      exact ⟨nearest, cut⟩

section Start

variable {start : ObjectHandle} {o : OrdinaryObject} {maxHops : Nat} {w : Walk}

/-- The walk of a live object begins with the object. -/
theorem walk_of_live (live : heap.get? start = some o) (maxHops : Nat) :
    ∃ rest truncation, heap.walk start maxHops = .ok ⟨(start, o) :: rest, truncation⟩ := by
  simp only [walk, walkUntil, get_of_live live, bind, Except.bind, pure, Except.pure, walkFrom,
    List.not_mem_nil, if_false, live, Bool.false_eq_true]
  exact ⟨_, _, rfl⟩

theorem walk_inv (ends : heap.walk start maxHops = .ok w) :
    (∃ o, heap.get? start = some o) ∧
      w = heap.walkFrom (fun _ => false) (maxHops + 1) [] (some start) := by
  simp only [walk, walkUntil, bind, Except.bind, pure, Except.pure] at ends
  split at ends
  · cases ends
  · next o live =>
    cases ends
    exact ⟨⟨o, get?_eq_some_of_get live⟩, rfl⟩

theorem walk_nodup (ends : heap.walk start maxHops = .ok w) : w.handles.Nodup := by
  obtain ⟨-, rfl⟩ := walk_inv ends
  exact (walkFrom_fresh heap _ _ _ _).2

theorem walk_live (ends : heap.walk start maxHops = .ok w) {h : ObjectHandle}
    {o : OrdinaryObject} (visited : (h, o) ∈ w.visited) : heap.get? h = some o := by
  obtain ⟨-, rfl⟩ := walk_inv ends
  exact walkFrom_live visited

/-- What a search answers, in terms of the walk of the whole chain. -/
theorem findProperty_of_walk (ends : heap.walk start maxHops = .ok w) (key : PropertyKey) :
    ∃ truncation, heap.findProperty start key maxHops =
        .ok ⟨Walk.nearest? key w.visited, truncation⟩ ∧
      (Walk.nearest? key w.visited ≠ none → truncation = none) ∧
      (Walk.nearest? key w.visited = none → truncation = w.truncation) := by
  obtain ⟨⟨o, live⟩, rfl⟩ := walk_inv ends
  obtain ⟨nearest, cut⟩ := walkFrom_hasOwn heap key (maxHops + 1) [] (some start)
  simp only [findProperty, walkUntil, get_of_live live, bind, Except.bind, pure, Except.pure]
  refine ⟨_, congrArg (fun found => Except.ok (PropertyLookup.mk found _)) nearest, ?_, cut⟩
  intro found
  obtain ⟨⟨owner, p⟩, found⟩ := Option.ne_none_iff_exists'.1 (nearest ▸ found)
  exact (walkFrom_found found).2

end Start

/-! ## Searches in two heaps -/

section Congr

variable {heap heap' : Heap} {key : PropertyKey}
  (same : ∀ h, (heap'.get? h).map (fun o => (o.prototype, o.getOwn? key)) =
    (heap.get? h).map fun o => (o.prototype, o.getOwn? key))

include same

theorem live_congr {h : ObjectHandle} {o : OrdinaryObject} (live : heap.get? h = some o) :
    ∃ o', heap'.get? h = some o' ∧ o'.prototype = o.prototype ∧ o'.getOwn? key = o.getOwn? key := by
  have related := same h
  rw [live, Option.map_some, Option.map_eq_some_iff] at related
  obtain ⟨o', live', both⟩ := related
  exact ⟨o', live', congrArg Prod.fst both, congrArg Prod.snd both⟩

/-- A search sees the links of the objects and what they own under the key, and nothing else. -/
theorem walkFrom_congr (left : Nat) (seen : List ObjectHandle) (link : Option ObjectHandle) :
    let w := heap.walkFrom (·.hasOwn key) left seen link
    let w' := heap'.walkFrom (·.hasOwn key) left seen link
    Walk.nearest? key w'.visited = Walk.nearest? key w.visited ∧ w'.truncation = w.truncation := by
  fun_induction walkFrom heap (·.hasOwn key) left seen link with
  | case1 left seen => simp [walkFrom]
  | case2 left seen h member => unfold walkFrom; simp [member]
  | case3 seen h fresh => simp [walkFrom, fresh]
  | case4 seen h fresh left missing =>
    have missing' : heap'.get? h = none := by simpa [missing] using same h
    simp [walkFrom, fresh, missing']
  | case5 seen h fresh left o live stop =>
    obtain ⟨o', live', prototype, own⟩ := live_congr same live
    have stop' : o'.hasOwn key = true := by
      rw [OrdinaryObject.hasOwn_iff] at stop ⊢
      rwa [own]
    simp [walkFrom, fresh, live', stop', Walk.nearest?, own]
  | case6 seen h fresh left o live goesOn rest ih =>
    obtain ⟨o', live', prototype, own⟩ := live_congr same live
    have absent : o.getOwn? key = none := (o.hasOwn_eq_false_iff key).1 (by simpa using goesOn)
    have absent' : o'.getOwn? key = none := own.trans absent
    have goesOn' : o'.hasOwn key = false := (o'.hasOwn_eq_false_iff key).2 absent'
    simp only [walkFrom, if_neg fresh, live', goesOn', Bool.false_eq_true, if_false, prototype,
      Walk.nearest?_cons_of_absent absent, Walk.nearest?_cons_of_absent absent']
    exact ih

theorem findProperty_congr {start : ObjectHandle} {maxHops : Nat} {lookup : PropertyLookup}
    (ends : heap.findProperty start key maxHops = .ok lookup) :
    heap'.findProperty start key maxHops = .ok lookup := by
  obtain ⟨o, live⟩ := live_of_findProperty ends
  obtain ⟨o', live', -, -⟩ := live_congr same live
  obtain ⟨nearest, truncation⟩ := walkFrom_congr same (maxHops + 1) [] (some start)
  simp only [findProperty, walkUntil, get_of_live live, bind, Except.bind, pure,
    Except.pure] at ends
  simp only [findProperty, walkUntil, get_of_live live', bind, Except.bind, pure, Except.pure]
  rw [← ends, truncation]
  exact congrArg (fun found => Except.ok (PropertyLookup.mk found _)) nearest

end Congr

end Heap

end ObjectModel
