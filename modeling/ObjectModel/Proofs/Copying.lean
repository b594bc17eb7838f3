import ObjectModel.Proofs.Define

/-!
# Copying properties

A property is copied by defining its key with the complete literal of the property, which leaves
nothing to defaults and nothing to the property that was there before (`define_ofDescriptor`).  A
whole table is copied by its entries one after the other; `Copied` is what any number of them does
to the target, and `Copied.append` carries it along the list.
-/

namespace ObjectModel

namespace PropertyTable

/-- Defines one property after the other: all outcomes and the table at the end, or the first
rejection. -/
def defineAll (extensible : Bool) (t : PropertyTable) :
    List (PropertyKey × DescriptorFields) → Except DefineError (List DefineOutcome × PropertyTable)
  | [] => .ok ([], t)
  | (key, d) :: rest => do
    let (outcome, t) ← t.define extensible key d
    let (outcomes, t) ← defineAll extensible t rest
    return (outcome :: outcomes, t)

/-- The definitions that copy some properties. -/
def copies (properties : List (PropertyKey × PropertyDescriptor)) :
    List (PropertyKey × DescriptorFields) :=
  properties.map fun e => (e.1, .ofDescriptor e.2)

variable {t t₁ t₂ : PropertyTable} {extensible : Bool} {key : PropertyKey} {p : PropertyDescriptor}
  {properties others : List (PropertyKey × PropertyDescriptor)}

theorem defineAll_cons {d : DescriptorFields} {rest : List (PropertyKey × DescriptorFields)}
    {outcome : DefineOutcome} {outcomes : List DefineOutcome}
    (first : t.define extensible key d = .ok (outcome, t₁))
    (later : t₁.defineAll extensible rest = .ok (outcomes, t₂)) :
    t.defineAll extensible ((key, d) :: rest) = .ok (outcome :: outcomes, t₂) := by
  simp only [defineAll, first, later, bind, Except.bind]
  rfl

/-! ## Into a table without the keys -/

/-- Properties under new keys are all created, just as they are. -/
theorem defineAll_copies_fresh (properties : List (PropertyKey × PropertyDescriptor))
    (nodup : ((t.entries ++ properties).map Prod.fst).Nodup) :
    t.defineAll true (copies properties) =
      .ok (List.replicate properties.length .created,
        properties.foldl (fun t e => t.insert e.1 e.2) t) := by
  induction properties generalizing t with
  | nil => rfl
  | cons e rest ih =>
    obtain ⟨key, p⟩ := e
    have fresh : key ∉ t.entries.map Prod.fst := by
      rw [List.map_append, List.nodup_append] at nodup
      exact fun member => nodup.2.2 _ member _ List.mem_cons_self rfl
    have appended : (t.insert key p).entries = t.entries ++ [(key, p)] :=
      OrderedMap.insertEntry_of_absent fresh
    refine defineAll_cons
      (define_ofDescriptor_absent ((OrderedMap.get?_eq_none_iff t key).2 fresh) p) (ih ?_)
    rwa [appended, List.append_assoc, List.singleton_append]

/-! ## Over properties that are there -/

/-- What copying some properties does to a table. -/
structure Copied (properties : List (PropertyKey × PropertyDescriptor))
    (before after : PropertyTable) : Prop where
  /-- Keys keep their places, and new ones come last in the order of the copies. -/
  keys : after.keys =
    before.keys ++ (properties.map Prod.fst).filter fun key => !before.contains key
  stored : ∀ e ∈ properties, ∃ q, after.get? e.1 = some q ∧ q.sameAs e.2 = true
  kept : ∀ key, key ∉ properties.map Prod.fst → after.get? key = before.get? key

theorem Copied.nil (t : PropertyTable) : Copied [] t t where
  keys := by simp
  stored _ member := nomatch member
  kept _ _ := rfl

/-- Copies under other keys do not touch the copies that are there. -/
theorem Copied.append (first : Copied properties t t₁) (second : Copied others t₁ t₂)
    (nodup : ((properties ++ others).map Prod.fst).Nodup) : Copied (properties ++ others) t t₂ := by
  rw [List.map_append, List.nodup_append] at nodup
  obtain ⟨-, -, disjoint⟩ := nodup
  refine ⟨?_, ?_, ?_⟩
  · -- a later key is new to the table in between exactly if it is new to the first one
    have sameNew : ∀ key ∈ others.map Prod.fst, (!t₁.contains key) = !t.contains key := by
      intro key later
      have notEarlier : key ∉ properties.map Prod.fst :=
        fun earlier => disjoint key earlier key later rfl
      rw [OrderedMap.contains, OrderedMap.contains, first.kept key notEarlier]
    rw [second.keys, first.keys, List.filter_congr sameNew, List.map_append, List.filter_append,
      List.append_assoc]
  · intro e member
    obtain earlier | later := List.mem_append.1 member
    · have notLater : e.1 ∉ others.map Prod.fst :=
        fun later => disjoint e.1 (List.mem_map_of_mem earlier) e.1 later rfl
      rw [second.kept e.1 notLater]
      exact first.stored e earlier
    · exact second.stored e later
  · intro key absent
    rw [List.map_append, List.mem_append, not_or] at absent
    rw [second.kept key absent.2, first.kept key absent.1]

theorem Copied.insert (t : PropertyTable) (key : PropertyKey) (p : PropertyDescriptor) :
    Copied [(key, p)] t (t.insert key p) where
  keys := by
    have present := OrderedMap.contains_iff_mem_keys t key
    rw [OrderedMap.keys_insert]
    cases there : t.contains key with
    | true => simp [present.1 there, there]
    | false => simp [← present, there]
  stored e member := by
    obtain rfl := List.mem_singleton.1 member
    exact ⟨p, OrderedMap.get?_insert_self .., p.sameAs_refl⟩
  kept other absent := OrderedMap.get?_insert_of_ne t (by simpa using absent) p

/-- One copy, over nothing or over a property that may change. -/
theorem define_ofDescriptor (p : PropertyDescriptor)
    (free : ∀ q, t.get? key = some q → q.isConfigurable = true) :
    ∃ outcome t', t.define true key (.ofDescriptor p) = .ok (outcome, t') ∧
      Copied [(key, p)] t t' := by
  cases found : t.get? key with
  | none => exact ⟨_, _, define_ofDescriptor_absent found p, .insert t key p⟩
  | some current =>
    have defined := define_admitted (DescriptorFields.classify_ofDescriptor p) found
      (PropertyDescriptor.verdict_of_free (free current found)) true
    rw [PropertyDescriptor.merge_ofDescriptor] at defined
    cases same : p.sameAs current with
    | false =>
      rw [same, if_neg Bool.false_ne_true] at defined
      exact ⟨_, _, defined, .insert t key p⟩
    | true =>
      rw [same, if_pos rfl] at defined
      refine ⟨_, _, defined, ?_, ?_, fun _ _ => rfl⟩
      · simp [OrderedMap.contains, found]
      · intro e member
        obtain rfl := List.mem_singleton.1 member
        exact ⟨current, found, (current.sameAs_comm p).trans same⟩

theorem defineAll_copies (properties : List (PropertyKey × PropertyDescriptor))
    (nodup : (properties.map Prod.fst).Nodup)
    (free : ∀ e ∈ properties, ∀ q, t.get? e.1 = some q → q.isConfigurable = true) :
    ∃ outcomes t', t.defineAll true (copies properties) = .ok (outcomes, t') ∧
      Copied properties t t' := by
  induction properties generalizing t with
  | nil => exact ⟨[], t, rfl, .nil t⟩
  | cons e rest ih =>
    obtain ⟨key, p⟩ := e
    have notLater : key ∉ rest.map Prod.fst := (List.nodup_cons.1 nodup).1
    obtain ⟨outcome, t₁, defined, first⟩ := define_ofDescriptor p (free (key, p) List.mem_cons_self)
    -- the first copy may be permanent, but no later one is under its key
    have free₁ : ∀ e ∈ rest, ∀ q, t₁.get? e.1 = some q → q.isConfigurable = true := by
      intro e member q found
      have otherKey : e.1 ∉ [key] := fun same =>
        notLater (List.mem_singleton.1 same ▸ List.mem_map_of_mem member)
      rw [first.kept e.1 otherKey] at found
      exact free e (List.mem_cons_of_mem _ member) q found
    obtain ⟨outcomes, t₂, definedRest, second⟩ := ih (List.nodup_cons.1 nodup).2 free₁
    exact ⟨_, t₂, defineAll_cons defined definedRest, first.append second nodup⟩

/-- Copying a table is faithful.  Into the empty table every property is created just as it is, in
the same order.  Over a table whose properties under the same keys may change, every copy is
accepted and replaces what was there. -/
theorem copying_is_faithful (source : PropertyTable) :
    defineAll true .empty (copies source.entries) =
      .ok (List.replicate source.size .created, source) ∧
    ∀ target : PropertyTable,
      (∀ key p q, source.get? key = some p → target.get? key = some q →
        q.isConfigurable = true) →
      ∃ outcomes copy, target.defineAll true (copies source.entries) = .ok (outcomes, copy) ∧
        (∀ key p, source.get? key = some p → ∃ q, copy.get? key = some q ∧ q.sameAs p = true) ∧
        (∀ key, source.get? key = none → copy.get? key = target.get? key) ∧
        copy.keys = target.keys ++ source.keys.filter fun key => !target.contains key := by
  constructor
  · have created := defineAll_copies_fresh (t := .empty) source.entries source.nodup
    exact created.trans (by rw [← OrderedMap.ofList, OrderedMap.ofList_entries]; rfl)
  · intro target free
    have free' : ∀ e ∈ source.entries, ∀ q, target.get? e.1 = some q → q.isConfigurable = true :=
      fun e member q => free e.1 e.2 q ((OrderedMap.get?_eq_some_iff_mem ..).2 member)
    obtain ⟨outcomes, copy, defined, copied⟩ := defineAll_copies source.entries source.nodup free'
    refine ⟨outcomes, copy, defined, ?_, ?_, copied.keys⟩
    · intro key p owned
      exact copied.stored (key, p) ((OrderedMap.get?_eq_some_iff_mem ..).1 owned)
    · intro key absent
      exact copied.kept key ((OrderedMap.get?_eq_none_iff source key).1 absent)

/-- A constant and an accessor, both permanent, copied over an open property and past a constant. -/
theorem copies_over_open_property :
    let accessor : PropertyDescriptor := .accessor (some ⟨7⟩) none true false
    let source : PropertyTable :=
      .ofList [(⟨"x"⟩, .constant (.number .nan)), (⟨"y"⟩, accessor)]
    let target : PropertyTable := .ofList [(⟨"z"⟩, .constant .null), (⟨"y"⟩, .openData .null)]
    (∀ key p q, source.get? key = some p → target.get? key = some q →
      q.isConfigurable = true) ∧
    ∃ outcomes copy, target.defineAll true (copies source.entries) = .ok (outcomes, copy) ∧
      (∃ q, copy.get? ⟨"y"⟩ = some q ∧ q.sameAs accessor = true) ∧
      copy.get? ⟨"z"⟩ = some (.constant .null) ∧ copy.keys = [⟨"z"⟩, ⟨"y"⟩, ⟨"x"⟩] := by
  intro accessor source target
  have shared : ∀ e ∈ target.entries, e.1 ∈ source.keys → e.2.isConfigurable = true := by decide
  have free : ∀ key p q, source.get? key = some p → target.get? key = some q →
      q.isConfigurable = true := fun key p q owned found =>
    shared (key, q) ((OrderedMap.get?_eq_some_iff_mem ..).1 found)
      ((OrderedMap.mem_keys_iff ..).2 ⟨p, owned⟩)
  obtain ⟨outcomes, copy, defined, stored, kept, keys⟩ :=
    (copying_is_faithful source).2 target free
  exact ⟨free, outcomes, copy, defined, stored ⟨"y"⟩ accessor rfl, kept ⟨"z"⟩ rfl, keys⟩

end PropertyTable

end ObjectModel
