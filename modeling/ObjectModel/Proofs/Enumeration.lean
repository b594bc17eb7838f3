import ObjectModel.Enumeration
import ObjectModel.Proofs.Chain
import ObjectModel.Proofs.PropertyTable

/-!
# Enumeration against look-up

An enumeration hides a key behind every nearer object that owns it; a look-up stops at the first
owner.  On the objects of one walk the two agree: a key is enumerated exactly if its nearest owner
has it enumerable (`mem_keysOf`), and the keys come in the order of their nearest owners
(`keysOf_ordered`).  `enumeration_agrees_with_lookup` puts that together for a heap.
-/

namespace ObjectModel

namespace OrdinaryObject

variable (o : OrdinaryObject) (key : PropertyKey)

theorem mem_ownKeys : key ∈ o.ownKeys ↔ ∃ p, o.getOwn? key = some p :=
  PropertyTable.mem_keysInOrder o.properties key

theorem mem_ownEnumerableKeys :
    key ∈ o.ownEnumerableKeys ↔ ∃ p, o.getOwn? key = some p ∧ p.isEnumerable = true :=
  PropertyTable.mem_enumerableKeys o.properties key

theorem ownEnumerableKeys_sublist : o.ownEnumerableKeys.Sublist o.ownKeys :=
  PropertyTable.enumerableKeys_sublist o.properties

end OrdinaryObject

/-! ## On the objects of one walk -/

namespace Enumeration

variable {visited : List (ObjectHandle × OrdinaryObject)} {seen : List PropertyKey}
  {a b key : PropertyKey}

/-- A key is listed if it is not hidden and its nearest owner has it enumerable. -/
theorem mem_keysOf : key ∈ keysOf seen (visited.map Prod.snd) ↔
    key ∉ seen ∧ ∃ owner p, Walk.nearest? key visited = some (owner, p) ∧
      p.isEnumerable = true := by
  induction visited generalizing seen with
  | nil => simp [keysOf, Walk.nearest?]
  | cons entry rest ih =>
    obtain ⟨h, o⟩ := entry
    simp only [List.map_cons, keysOf, List.mem_append, List.mem_filter, decide_eq_true_eq, ih,
      OrdinaryObject.mem_ownEnumerableKeys, OrdinaryObject.mem_ownKeys, not_or]
    cases owned : o.getOwn? key with
    | some p =>
      -- the key is hidden further up, whether this owner lists it or not
      rw [Walk.nearest?_cons_of_own owned]
      constructor
      · rintro (⟨⟨q, same, listed⟩, fresh⟩ | ⟨⟨unowned, -⟩, -⟩)
        · cases same
          exact ⟨fresh, h, p, rfl, listed⟩
        · exact absurd ⟨p, rfl⟩ unowned
      · rintro ⟨fresh, owner, q, same, listed⟩
        cases same
        exact .inl ⟨⟨p, rfl, listed⟩, fresh⟩
    | none => simp [Walk.nearest?_cons_of_absent owned]

/-- The nearest owner of one key comes before that of the other, or they have the same nearest owner
and it lists the one before the other. -/
def Precedes (visited : List (ObjectHandle × OrdinaryObject)) (a b : PropertyKey) : Prop :=
  ∃ x p y q, Walk.nearest? a visited = some (x, p) ∧ Walk.nearest? b visited = some (y, q) ∧
    ([x, y].Sublist (visited.map Prod.fst) ∨
      x = y ∧ ∃ o, (x, o) ∈ visited ∧ [a, b].Sublist o.ownKeys)

theorem Precedes.cons {h : ObjectHandle} {o : OrdinaryObject} (before : Precedes visited a b)
    (absent : o.getOwn? a = none) (absent' : o.getOwn? b = none) :
    Precedes ((h, o) :: visited) a b := by
  obtain ⟨x, p, y, q, nearest, nearest', order⟩ := before
  refine ⟨x, p, y, q, (Walk.nearest?_cons_of_absent absent).trans nearest,
    (Walk.nearest?_cons_of_absent absent').trans nearest', ?_⟩
  obtain owners | ⟨same, o', member, keys⟩ := order
  · exact .inl (owners.cons h)
  · exact .inr ⟨same, o', List.mem_cons_of_mem _ member, keys⟩

/-- The keys are listed in the order of their owners, and those of one owner in its order. -/
theorem keysOf_ordered (seen : List PropertyKey)
    (visited : List (ObjectHandle × OrdinaryObject)) :
    (keysOf seen (visited.map Prod.snd)).Pairwise (Precedes visited) := by
  induction visited generalizing seen with
  | nil => exact List.Pairwise.nil
  | cons entry rest ih =>
    obtain ⟨h, o⟩ := entry
    have later : ∀ key ∈ keysOf (o.ownKeys ++ seen) (rest.map Prod.snd), o.getOwn? key = none := by
      intro key listed
      have hidden := (mem_keysOf.1 listed).1
      rw [List.mem_append, not_or, OrdinaryObject.mem_ownKeys] at hidden
      exact Option.eq_none_iff_forall_ne_some.2 fun p owned => hidden.1 ⟨p, owned⟩
    refine List.pairwise_append.2 ⟨?_, ?_, ?_⟩
    · rw [List.pairwise_iff_forall_sublist]
      intro a b listed
      have keys := (listed.trans List.filter_sublist).trans o.ownEnumerableKeys_sublist
      obtain ⟨p, owned⟩ := (o.mem_ownKeys a).1 (keys.subset (by simp))
      obtain ⟨q, owned'⟩ := (o.mem_ownKeys b).1 (keys.subset (by simp))
      exact ⟨h, p, h, q, Walk.nearest?_cons_of_own owned, Walk.nearest?_cons_of_own owned',
        .inr ⟨rfl, o, List.mem_cons_self, keys⟩⟩
    · exact (ih (o.ownKeys ++ seen)).imp_of_mem fun first second before =>
        before.cons (later _ first) (later _ second)
    · intro a first b second
      obtain ⟨p, owned, -⟩ := (o.mem_ownEnumerableKeys a).1 (List.mem_filter.1 first).1
      obtain ⟨-, y, q, nearest, -⟩ := mem_keysOf.1 second
      obtain ⟨o', member, -⟩ := Walk.mem_of_nearest? nearest
      refine ⟨h, p, y, q, Walk.nearest?_cons_of_own owned,
        (Walk.nearest?_cons_of_absent (later b second)).trans nearest, .inl ?_⟩
      have further : [y].Sublist (rest.map Prod.fst) :=
        List.singleton_sublist.2 (List.mem_map_of_mem member)
      exact further.cons_cons h

/-- Where no object occurs twice, no key comes before itself. -/
theorem Precedes.ne (before : Precedes visited a b) (once : (visited.map Prod.fst).Nodup) :
    a ≠ b := by
  rintro rfl
  obtain ⟨x, p, y, q, nearest, nearest', order⟩ := before
  rw [nearest] at nearest'
  cases nearest'
  obtain owners | ⟨-, o, -, keys⟩ := order
  · exact absurd (once.sublist owners) (by simp)
  · exact absurd ((PropertyTable.keysInOrder_nodup o.properties).sublist keys) (by simp)

end Enumeration

/-! ## On a heap -/

namespace Heap

variable {heap : Heap} {start : ObjectHandle} {o : OrdinaryObject} {maxHops : Nat} {w : Walk}

theorem enumerateKeys_of_walk (ends : heap.walk start maxHops = .ok w) :
    heap.enumerateKeys start maxHops =
      .ok ⟨Enumeration.keysOf [] (w.visited.map Prod.snd), w.truncation⟩ := by
  simp only [enumerateKeys, ends, bind, Except.bind, pure, Except.pure]

/-- The search for the key finds it in this object. -/
def FoundIn (heap : Heap) (start : ObjectHandle) (maxHops : Nat) (key : PropertyKey)
    (owner : ObjectHandle) : Prop :=
  ∃ p truncation, heap.findProperty start key maxHops = .ok ⟨some (owner, p), truncation⟩

/-- The order of an enumeration: first by the place of the owner in the walk, then by the owner's
own order of keys. -/
def EnumeratedBefore (heap : Heap) (start : ObjectHandle) (maxHops : Nat) (w : Walk)
    (a b : PropertyKey) : Prop :=
  ∃ x y, heap.FoundIn start maxHops a x ∧ heap.FoundIn start maxHops b y ∧
    ([x, y].Sublist w.handles ∨ x = y ∧ ∃ o, heap.get? x = some o ∧ [a, b].Sublist o.ownKeys)

theorem foundIn_of_nearest (ends : heap.walk start maxHops = .ok w) {key : PropertyKey}
    {owner : ObjectHandle} {p : PropertyDescriptor}
    (nearest : Walk.nearest? key w.visited = some (owner, p)) :
    heap.FoundIn start maxHops key owner := by
  obtain ⟨truncation, answer, -⟩ := findProperty_of_walk ends key
  rw [nearest] at answer
  exact ⟨p, truncation, answer⟩

theorem enumeratedBefore_of_precedes (ends : heap.walk start maxHops = .ok w)
    {a b : PropertyKey} (before : Enumeration.Precedes w.visited a b) :
    heap.EnumeratedBefore start maxHops w a b := by
  obtain ⟨x, p, y, q, nearest, nearest', order⟩ := before
  refine ⟨x, y, foundIn_of_nearest ends nearest, foundIn_of_nearest ends nearest', ?_⟩
  exact order.imp_right fun ⟨same, o, visited, keys⟩ => ⟨same, o, walk_live ends visited, keys⟩

/-- Enumeration and look-up see the same chain, whatever its shape and wherever it is cut off. -/
theorem enumeration_agrees_with_lookup (live : heap.get? start = some o) (maxHops : Nat) :
    ∃ w e, heap.walk start maxHops = .ok w ∧ w.handles.Nodup ∧
      heap.enumerateKeys start maxHops = .ok e ∧
      (∀ key, ∃ lookup, heap.findProperty start key maxHops = .ok lookup ∧
        (key ∈ e.keys ↔ ∃ owner p, lookup.found = some (owner, p) ∧ p.isEnumerable = true) ∧
        (lookup.truncation ≠ none → lookup.found = none) ∧
        (lookup.found = none → lookup.truncation = e.truncation)) ∧
      e.keys.Nodup ∧ e.keys.Pairwise (heap.EnumeratedBefore start maxHops w) ∧
      ∃ own, heap.ownEnumerableKeys start = .ok own ∧ own <+: e.keys := by
  obtain ⟨rest, truncation, ends⟩ := walk_of_live live maxHops
  have once := walk_nodup ends
  have ordered := Enumeration.keysOf_ordered [] ((start, o) :: rest)
  refine ⟨_, _, ends, once, enumerateKeys_of_walk ends, ?_, ?_, ?_, o.ownEnumerableKeys, ?_, ?_⟩
  · intro key
    obtain ⟨cut, answer, foundWhole, missedCut⟩ := findProperty_of_walk ends key
    refine ⟨_, answer, ?_, ?_, missedCut⟩
    · exact Enumeration.mem_keysOf.trans (by simp)
    · exact fun isCut => Classical.byContradiction fun found => isCut (foundWhole found)
  · exact ordered.imp fun before => before.ne once
  · exact ordered.imp fun before => enumeratedBefore_of_precedes ends before
  · simp only [ownEnumerableKeys, get_of_live live, bind, Except.bind, pure, Except.pure]
  · have unhidden : (o.ownEnumerableKeys.filter fun key => key ∉ []) = o.ownEnumerableKeys :=
      List.filter_eq_self.2 (by simp)
    simp only [List.map_cons, Enumeration.keysOf, unhidden]
    exact List.prefix_append _ _

/-- Two objects that inherit from each other; the first hides `x` and shows `y` of the second. -/
theorem cyclic_chain_enumeration :
    let properties : PropertyTable := .ofList [(⟨"x"⟩, .openData .null), (⟨"y"⟩, .openData .null)]
    let heap : Heap :=
      ⟨#[{ prototype := some ⟨1⟩, properties := .ofList [(⟨"x"⟩, .builtin .null)] },
        { prototype := some ⟨0⟩, properties }], by decide⟩
    ∃ e, heap.enumerateKeys ⟨0⟩ 1024 = .ok e ∧ ⟨"x"⟩ ∉ e.keys ∧ ⟨"y"⟩ ∈ e.keys ∧ e.keys.Nodup ∧
      e.truncation = some .cycleDetected := by
  intro properties heap
  obtain ⟨o, live⟩ : ∃ o, heap.get? ⟨0⟩ = some o := ⟨_, rfl⟩
  obtain ⟨w, e, -, -, enumeration, agree, nodup, -⟩ := enumeration_agrees_with_lookup live 1024
  have x : heap.findProperty ⟨0⟩ ⟨"x"⟩ 1024 = .ok ⟨some (⟨0⟩, .builtin .null), none⟩ := rfl
  have y : heap.findProperty ⟨0⟩ ⟨"y"⟩ 1024 = .ok ⟨some (⟨1⟩, .openData .null), none⟩ := rfl
  have missing : heap.findProperty ⟨0⟩ ⟨"z"⟩ 1024 = .ok ⟨none, some .cycleDetected⟩ := rfl
  refine ⟨e, enumeration, ?_, ?_, nodup, ?_⟩
  · obtain ⟨lookup, answer, listed, -⟩ := agree ⟨"x"⟩
    rw [x] at answer
    cases answer
    rw [listed]
    rintro ⟨owner, p, found, enumerable⟩
    cases found
    cases enumerable
  · obtain ⟨lookup, answer, listed, -⟩ := agree ⟨"y"⟩
    rw [y] at answer
    cases answer
    exact listed.2 ⟨⟨1⟩, _, rfl, rfl⟩
  · obtain ⟨lookup, answer, -, -, cut⟩ := agree ⟨"z"⟩
    rw [missing] at answer
    cases answer
    exact (cut rfl).symm

end Heap

end ObjectModel
