import ObjectModel.Proofs.Reachability

/-!
# What is permanent

A non-configurable property stays, and stays what it is up to the value of a writable data property
and the loss of its writability (`nonconfigurable_properties_permanent`).  An object that is
non-extensible, sealed or frozen stays so (`integrity_levels_permanent`).

Both are invariants of one object, so each is a statement about a single edit: `Edit.fixed` for a
property, `Edit.nonExtensible`, `Edit.isSealed` and `Edit.isFrozen` for an object.
-/

namespace ObjectModel

variable {β : Type}

/-! ## Non-configurable properties -/

/-- What remains of a non-configurable property: all of it but the value and the flag of a writable
data property. -/
structure PropertyDescriptor.PersistsAs (d d' : PropertyDescriptor) : Prop where
  configurable : d'.isConfigurable = false
  kind : d'.kind = d.kind
  enumerable : d'.isEnumerable = d.isEnumerable
  getter : d'.getter? = d.getter?
  setter : d'.setter? = d.setter?
  writable : d.isWritable = false → d'.isWritable = false
  value : d.isWritable = false → d'.value? = d.value?

namespace PropertyDescriptor

theorem PersistsAs.refl {d : PropertyDescriptor} (fixed : d.isConfigurable = false) :
    d.PersistsAs d :=
  ⟨fixed, rfl, rfl, rfl, rfl, id, fun _ => rfl⟩

/-- A writable data property persists as whatever data property an edit leaves. -/
theorem PersistsAs.rewrite {d : PropertyDescriptor} {v v' : Value} {e w' : Bool}
    (persists : d.PersistsAs (.data v true e false)) : d.PersistsAs (.data v' w' e false) where
  configurable := rfl
  kind := persists.kind
  enumerable := persists.enumerable
  getter := persists.getter
  setter := persists.setter
  writable readOnly := nomatch persists.writable readOnly
  value readOnly := nomatch persists.writable readOnly

end PropertyDescriptor

namespace Realm

variable {r r' : Realm β} {o o' : OrdinaryObject}

/-- An edit leaves a non-configurable property alone, unless it is a writable data property. -/
theorem Edit.fixed (edited : r.Edit o o') {key : PropertyKey} {d : PropertyDescriptor}
    (owned : o.getOwn? key = some d) (fixed : d.isConfigurable = false) :
    o'.getOwn? key = some d ∨
      ∃ v e v' w', d = .data v true e false ∧ o'.getOwn? key = some (.data v' w' e false) := by
  cases edited with
  | keep | preventExtensions | relink => exact .inl owned
  | @write written v e c v' before =>
    rw [OrdinaryObject.getOwn?_setOwn]
    by_cases same : written = key
    · subst same
      rw [owned] at before
      cases before
      cases fixed
      exact .inr ⟨v, e, v', true, rfl, if_pos rfl⟩
    · exact .inl (by rw [if_neg same, owned])
  | @add added v extensible absent =>
    left
    rw [OrdinaryObject.getOwn?_setOwn, if_neg, owned]
    rintro rfl
    rw [owned] at absent
    cases absent
  | @define defined fields outcome o' callable accepted =>
    obtain ⟨kind, properties, shape, rfl, changed⟩ := OrdinaryObject.define_inv accepted
    by_cases same : defined = key
    · subst same
      cases changed with
      | created absent =>
        rw [← OrdinaryObject.getOwn?, owned] at absent
        cases absent
      | unchanged => exact .inl owned
      | updated present admitted differs =>
        rw [← OrdinaryObject.getOwn?, owned] at present
        cases present
        rw [PropertyDescriptor.verdict_of_fixed fixed] at admitted
        obtain sameAs | ⟨v, e, v', w', rfl, merged⟩ :=
          PropertyDescriptor.merge_of_fixed shape fixed admitted
        · rw [sameAs] at differs
          cases differs
        · refine .inr ⟨v, e, v', w', rfl, ?_⟩
          rw [OrdinaryObject.getOwn?, merged]
          exact OrderedMap.get?_insert_self ..
    · left
      cases changed with
      | created | updated =>
        rw [← owned]
        exact OrderedMap.get?_insert_of_ne _ (Ne.symm same) _
      | unchanged => exact owned
  | @delete deleted p before configurable =>
    left
    rw [OrdinaryObject.getOwn?, OrderedMap.get?_erase, if_neg]
    · exact owned
    · rintro rfl
      rw [owned] at before
      cases before
      rw [fixed] at configurable
      cases configurable
  | makeSealed =>
    left
    rw [OrdinaryObject.getOwn?_sealed, owned, Option.map_some,
      PropertyDescriptor.sealed_of_fixed fixed]
  | makeFrozen =>
    rw [OrdinaryObject.getOwn?_frozen, owned, Option.map_some]
    cases d with
    | accessor => cases fixed; exact .inl rfl
    | data v w e c =>
      -- only `writable` can still change
      cases fixed
      cases w with
      | false => exact .inl rfl
      | true => exact .inr ⟨v, e, v, false, rfl, rfl⟩

theorem Edit.persists (edited : r.Edit o o') {key : PropertyKey} {d d₁ : PropertyDescriptor}
    (owned : o.getOwn? key = some d₁) (persists : d.PersistsAs d₁) :
    ∃ d₂, o'.getOwn? key = some d₂ ∧ d.PersistsAs d₂ := by
  obtain kept | ⟨v, e, v', w', rfl, rewritten⟩ := edited.fixed owned persists.configurable
  · exact ⟨d₁, kept, persists⟩
  · exact ⟨_, rewritten, persists.rewrite⟩

theorem Reaches.persists (reaches : r.Reaches r') {h : ObjectHandle} {key : PropertyKey}
    {d : PropertyDescriptor} (live : r.heap.get? h = some o) (owned : o.getOwn? key = some d)
    (fixed : d.isConfigurable = false) :
    ∃ o' d', r'.heap.get? h = some o' ∧ o'.getOwn? key = some d' ∧ d.PersistsAs d' := by
  obtain ⟨o', live', d', owned', persists⟩ :=
    reaches.object (P := fun p => ∃ d', p.getOwn? key = some d' ∧ d.PersistsAs d')
      (fun edited ⟨d₁, owned, persists⟩ => edited.persists owned persists) live
      ⟨d, owned, .refl fixed⟩
  exact ⟨o', d', live', owned', persists⟩

/-! ### Constants of the intrinsic objects -/

/-- A constant of a new realm reads the same in every realm that it gets to. -/
theorem get_constant (reaches : r.Reaches r') {object : ObjectHandle} {key : PropertyKey}
    {v : Value} (live : r.heap.get? object = some o) (owned : o.getOwn? key = some (.constant v))
    (receiver : Value) : r'.get object key receiver = (.done (.ok v), r') := by
  obtain ⟨o', d', live', owned', persists⟩ := reaches.persists live owned rfl
  have value := persists.value rfl
  cases d' with
  | data v' w e c =>
    cases value
    exact get_own_data live' owned' receiver
  | accessor => cases persists.kind

theorem global_constants_owned :
    ∀ c ∈ Intrinsics.globalConstants, (Intrinsics.heap.get? Intrinsics.standard.global).bind
      (·.getOwn? ⟨c.1⟩) = some (.constant c.2) := by
  decide

theorem math_constants_owned :
    ∀ c ∈ Intrinsics.mathConstants, (Intrinsics.heap.get? Intrinsics.standard.math).bind
      (·.getOwn? ⟨c.1⟩) = some (.constant (.number c.2)) := by
  decide

/-- A property that a reachable realm makes non-configurable is permanent, and the constants of the
global object and of `Math` read the same in every reachable realm. -/
theorem nonconfigurable_properties_permanent (reachable : r.Reachable) :
    (∀ r', r.Reaches r' → ∀ h o key d, r.heap.get? h = some o → o.getOwn? key = some d →
      d.isConfigurable = false →
      ∃ o' d', r'.heap.get? h = some o' ∧ o'.getOwn? key = some d' ∧ d.PersistsAs d') ∧
      ∀ receiver : Value,
        (∀ c ∈ Intrinsics.globalConstants,
          r.get r.intrinsics.global ⟨c.1⟩ receiver = (.done (.ok c.2), r)) ∧
        ∀ c ∈ Intrinsics.mathConstants,
          r.get r.intrinsics.math ⟨c.1⟩ receiver = (.done (.ok (.number c.2)), r) := by
  refine ⟨fun _ reaches _ _ _ _ live owned fixed => reaches.persists live owned fixed, ?_⟩
  intro receiver
  obtain ⟨config, start, valid, reaches⟩ := reachable
  obtain rfl := ofConfig_of_withConfig valid
  rw [reaches.intrinsics_eq]
  constructor
  · intro c member
    obtain ⟨o, live, owned⟩ := Option.bind_eq_some_iff.1 (global_constants_owned c member)
    exact get_constant reaches live owned receiver
  · intro c member
    obtain ⟨o, live, owned⟩ := Option.bind_eq_some_iff.1 (math_constants_owned c member)
    exact get_constant reaches live owned receiver

/-- The `prototype` of a function, after an assignment to it and after the function is frozen. -/
theorem function_prototype_permanent :
    let r : Realm Unit := ((ofConfig {}).perform (.createFunction "f" ())).2
    let assigned := (r.perform (.put ⟨5⟩ ⟨"prototype"⟩ .null .undefined)).2
    let r' := (assigned.perform (.makeFrozen ⟨5⟩)).2
    (∃ o' d', r'.heap.get? ⟨5⟩ = some o' ∧ o'.getOwn? ⟨"prototype"⟩ = some d' ∧
      (PropertyDescriptor.data (.object ⟨6⟩) true false false).PersistsAs d') ∧
      r.get ⟨4⟩ ⟨"undefined"⟩ .null = (.done (.ok .undefined), r) := by
  intro r assigned r'
  have reachable : r.Reachable := ⟨{}, ofConfig {}, rfl, .perform .refl (.createFunction "f" ())⟩
  have reaches : r.Reaches r' := .perform (.perform .refl _) _
  obtain ⟨persist, constants⟩ := nonconfigurable_properties_permanent reachable
  obtain ⟨o, live, owned⟩ : ∃ o, r.heap.get? ⟨5⟩ = some o ∧
      o.getOwn? ⟨"prototype"⟩ = some (.data (.object ⟨6⟩) true false false) := ⟨_, rfl, rfl⟩
  exact ⟨persist r' reaches ⟨5⟩ o ⟨"prototype"⟩ _ live owned rfl,
    (constants .null).1 ("undefined", .undefined) (by decide)⟩

end Realm

/-! ## Integrity levels -/

/-- What is left of an object is at least on the integrity level of the object, and as much the same
as the level says. -/
structure OrdinaryObject.KeepsLevels (o o' : OrdinaryObject) : Prop where
  nonExtensible : o.extensible = false → o'.extensible = false ∧ o'.prototype = o.prototype ∧
    o'.properties.keys.Sublist o.properties.keys
  isSealed : o.isSealed = true → o'.isSealed = true ∧ o'.properties.keys = o.properties.keys
  isFrozen : o.isFrozen = true → o'.isFrozen = true ∧ o'.properties = o.properties

theorem OrdinaryObject.KeepsLevels.refl (o : OrdinaryObject) : o.KeepsLevels o where
  nonExtensible closed := ⟨closed, rfl, List.Sublist.refl _⟩
  isSealed level := ⟨level, rfl⟩
  isFrozen level := ⟨level, rfl⟩

namespace Realm

variable {r r' : Realm β} {o o' : OrdinaryObject}

/-- A non-extensible object gains no key and keeps its prototype. -/
theorem Edit.nonExtensible (edited : r.Edit o o') (closed : o.extensible = false) :
    o'.extensible = false ∧ o'.prototype = o.prototype ∧
      o'.properties.keys.Sublist o.properties.keys := by
  cases edited with
  | keep => exact ⟨closed, rfl, List.Sublist.refl _⟩
  | preventExtensions => exact ⟨rfl, rfl, List.Sublist.refl _⟩
  | write value owned =>
    refine ⟨closed, rfl, ?_⟩
    simp only [OrdinaryObject.keys_setOwn_of_getOwn? owned, List.Sublist.refl]
  | add value extensible => rw [closed] at extensible; cases extensible
  | define callable accepted =>
    obtain ⟨kind, properties, shape, rfl, changed⟩ := OrdinaryObject.define_inv accepted
    refine ⟨closed, rfl, ?_⟩
    cases changed with
    | created absent extensible => rw [closed] at extensible; cases extensible
    | unchanged => exact List.Sublist.refl _
    | updated present =>
      show (o.properties.insert _ _).keys.Sublist o.properties.keys
      simp only [OrderedMap.keys_insert_of_get? present, List.Sublist.refl]
  | delete owned configurable =>
    refine ⟨closed, rfl, ?_⟩
    show (o.properties.erase _).keys.Sublist o.properties.keys
    rw [OrderedMap.keys_erase]
    exact List.erase_sublist
  | makeSealed | makeFrozen =>
    refine ⟨rfl, rfl, ?_⟩
    show (o.properties.mapValues _).keys.Sublist o.properties.keys
    simp only [OrderedMap.keys_mapValues, List.Sublist.refl]
  | relink extensible => rw [closed] at extensible; cases extensible

theorem Edit.isSealed (edited : r.Edit o o') (level : o.isSealed = true) :
    o'.isSealed = true ∧ o'.properties.keys = o.properties.keys := by
  obtain ⟨closed, fixed⟩ := o.isSealed_iff.1 level
  obtain ⟨closed', -, fewer⟩ := edited.nonExtensible closed
  -- a non-configurable property is not deleted, so no key is lost
  have persists : ∀ key d, o.getOwn? key = some d →
      ∃ d', o'.getOwn? key = some d' ∧ d.PersistsAs d' := fun key d owned =>
    edited.persists owned (.refl (fixed key d owned))
  constructor
  · refine o'.isSealed_iff.2 ⟨closed', fun key d' owned' => ?_⟩
    obtain ⟨d, owned⟩ := OrderedMap.get?_of_sublist fewer owned'
    obtain ⟨d'', same, persists⟩ := persists key d owned
    rw [owned'] at same
    cases same
    exact persists.configurable
  · refine OrderedMap.keys_eq_of_sublist fewer fun key d owned => ?_
    obtain ⟨d', owned', -⟩ := persists key d owned
    exact ⟨d', owned'⟩

theorem Edit.isFrozen (edited : r.Edit o o') (level : o.isFrozen = true) :
    o'.isFrozen = true ∧ o'.properties = o.properties := by
  obtain ⟨closed, fixed⟩ := o.isFrozen_iff.1 level
  obtain ⟨closed', -, fewer⟩ := edited.nonExtensible closed
  have kept : ∀ key d, o.getOwn? key = some d → o'.getOwn? key = some d := by
    intro key d owned
    obtain ⟨configurable, writable⟩ := fixed key d owned
    obtain kept | ⟨v, e, v', w', rfl, -⟩ := edited.fixed owned configurable
    · exact kept
    · cases writable
  have same : o'.properties = o.properties := OrderedMap.eq_of_sublist fewer kept
  refine ⟨?_, same⟩
  rw [OrdinaryObject.isFrozen, closed', same, ← closed]
  exact level

theorem Edit.keepsLevels {p : OrdinaryObject} (edited : r.Edit o o') (before : p.KeepsLevels o) :
    p.KeepsLevels o' where
  nonExtensible level := by
    obtain ⟨closed, prototype, fewer⟩ := before.nonExtensible level
    obtain ⟨closed', prototype', fewer'⟩ := edited.nonExtensible closed
    exact ⟨closed', prototype'.trans prototype, fewer'.trans fewer⟩
  isSealed level := by
    obtain ⟨level', same⟩ := before.isSealed level
    obtain ⟨level'', same'⟩ := edited.isSealed level'
    exact ⟨level'', same'.trans same⟩
  isFrozen level := by
    obtain ⟨level', same⟩ := before.isFrozen level
    obtain ⟨level'', same'⟩ := edited.isFrozen level'
    exact ⟨level'', same'.trans same⟩

/-- The integrity level of an object is permanent. -/
theorem integrity_levels_permanent (reaches : r.Reaches r') {h : ObjectHandle}
    (live : r.heap.get? h = some o) : ∃ o', r'.heap.get? h = some o' ∧ o.KeepsLevels o' :=
  reaches.object (fun edited before => edited.keepsLevels before) live (.refl o)

/-- A frozen function after an assignment, a deletion and a change of prototype. -/
theorem frozen_function_permanent :
    let r : Realm Unit := (((ofConfig {}).perform (.createFunction "f" ())).2.perform
      (.makeFrozen ⟨5⟩)).2
    let assigned := (r.perform (.put ⟨5⟩ ⟨"prototype"⟩ .null .undefined)).2
    let deleted := (assigned.perform (.delete ⟨5⟩ ⟨"prototype"⟩)).2
    let r' := (deleted.perform (.setPrototype ⟨5⟩ none)).2
    ∃ o o', r.heap.get? ⟨5⟩ = some o ∧ o.isFrozen = true ∧ r'.heap.get? ⟨5⟩ = some o' ∧
      o'.isFrozen = true ∧ o'.prototype = o.prototype ∧ o'.properties = o.properties := by
  intro r assigned deleted r'
  obtain ⟨o, live, closed, level⟩ : ∃ o, r.heap.get? ⟨5⟩ = some o ∧ o.extensible = false ∧
      o.isFrozen = true := ⟨_, rfl, rfl, by decide⟩
  have reaches : r.Reaches r' := .perform (.perform (.perform .refl _) _) _
  obtain ⟨o', live', keeps⟩ := integrity_levels_permanent reaches live
  obtain ⟨level', same⟩ := keeps.isFrozen level
  obtain ⟨-, prototype, -⟩ := keeps.nonExtensible closed
  exact ⟨o, o', live, level, live', level', prototype, same⟩

end Realm

end ObjectModel
