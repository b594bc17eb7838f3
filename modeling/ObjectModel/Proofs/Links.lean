import ObjectModel.Proofs.Functions
import ObjectModel.Proofs.Permanence

/-!
# Prototype links

New references come from the operands of an operation, from the intrinsic objects, or from the
objects that the operation adds (`Effect.object_inv`).  For prototype links this means that a
realm without a dangling link stays so, with one exception: an allocation takes any prototype
(`Effect.linksLive`).  Constructing an object is such an allocation.  Its prototype is whatever
object the function's own `prototype` holds, which is a property that anybody may write
(`run_construct`), so a constructed object can inherit from a missing one
(`constructed_object_dangles`).  This is the only source of dangling links
(`dangling_links_from_allocation`).
-/

namespace ObjectModel

variable {β σ : Type}

/-- The handles of all intrinsic objects. -/
def Intrinsics.handles (i : Intrinsics) : List ObjectHandle :=
  [i.objectPrototype, i.functionPrototype, i.arrayPrototype, i.global, i.math]

namespace Realm

variable {r r' : Realm β} {o o' : OrdinaryObject} {q : Request β}

/-! ## Live handles -/

theorem Transition.contains (transition : r.Transition r') {h : ObjectHandle}
    (live : r.heap.contains h = true) : r'.heap.contains h = true := by
  obtain ⟨o, live⟩ := (Heap.contains_iff _ _).1 live
  obtain ⟨o', live', -⟩ := transition.object live
  exact (Heap.contains_iff _ _).2 ⟨o', live'⟩

def IntrinsicsLive (r : Realm β) : Prop :=
  ∀ h ∈ r.intrinsics.handles, r.heap.contains h = true

theorem IntrinsicsLive.objectPrototype (intrinsics : r.IntrinsicsLive) :
    r.heap.contains r.intrinsics.objectPrototype = true :=
  intrinsics _ (by simp [Intrinsics.handles])

theorem IntrinsicsLive.functionPrototype (intrinsics : r.IntrinsicsLive) :
    r.heap.contains r.intrinsics.functionPrototype = true :=
  intrinsics _ (by simp [Intrinsics.handles])

theorem Transition.intrinsicsLive (transition : r.Transition r') (before : r.IntrinsicsLive) :
    r'.IntrinsicsLive := by
  intro h member
  rw [transition.intrinsics_eq] at member
  exact transition.contains (before h member)

theorem ofConfig_intrinsicsLive (config : RealmConfig) :
    (ofConfig config : Realm β).IntrinsicsLive := by
  show ∀ h ∈ Intrinsics.standard.handles, Intrinsics.heap.contains h = true
  decide

theorem Reachable.intrinsicsLive (reachable : r.Reachable) : r.IntrinsicsLive :=
  reachable.invariant (fun transition => transition.intrinsicsLive) ofConfig_intrinsicsLive

/-! ## References -/

theorem intrinsic_references_live : Intrinsics.heap.objects.toList.all (fun o =>
    o.prototype.all Intrinsics.heap.contains && o.properties.values.all fun p =>
      (p.value?.bind Value.asObject?).all Intrinsics.heap.contains) = true := by
  decide

theorem ofConfig_references (config : RealmConfig) (h : ObjectHandle) (o : OrdinaryObject)
    (k : ObjectHandle) (live : (ofConfig config : Realm β).heap.get? h = some o)
    (refers : o.refersTo k) : (ofConfig config : Realm β).heap.contains k = true := by
  have checked := Heap.forall_of_all intrinsic_references_live live
  rw [Bool.and_eq_true, OrderedMap.all_values_iff] at checked
  obtain ⟨linked, held⟩ := checked
  obtain link | ⟨key, p, owned, value | calls⟩ := refers
  · rwa [link] at linked
  · have found := held key p owned
    rwa [value] at found
  · -- there is no function yet, so nothing is a getter or setter
    have callable := ofConfig_accessorsCallable (β := β) config h o live key p k owned calls
    cases callable

theorem refersTo_newFunction {k : ObjectHandle} (refers : r.newFunction.refersTo k) :
    k = r.intrinsics.functionPrototype := by
  obtain linked | ⟨key, p, owned, -⟩ := refers
  · exact (Option.some.inj linked).symm
  · cases owned

theorem refersTo_newPrototype {function k : ObjectHandle}
    (refers : (r.newPrototype function).refersTo k) :
    k = r.intrinsics.objectPrototype ∨ k = function := by
  obtain linked | held := OrdinaryObject.refersTo_setOwn refers
  · exact .inl (Option.some.inj (OrdinaryObject.refersTo_tagged.1 linked)).symm
  · exact .inr (Value.object.inj (PropertyDescriptor.refersTo_data.1 held)).symm

theorem refersTo_linkedFunction {prototype k : ObjectHandle}
    (refers : (r.linkedFunction prototype).refersTo k) :
    k = r.intrinsics.functionPrototype ∨ k = prototype := by
  obtain before | held := OrdinaryObject.refersTo_setOwn refers
  · exact .inl (refersTo_newFunction before)
  · exact .inr (Value.object.inj (PropertyDescriptor.refersTo_data.1 held)).symm

/-- An object after an operation was edited, at most once and with references that the operation
may store, or is new, and then refers to live objects, unless an allocation asked for a missing
prototype. -/
theorem Effect.object_inv (effect : r.Effect q r') (intrinsics : r.IntrinsicsLive)
    {h : ObjectHandle} (live' : r'.heap.get? h = some o') :
    (∃ o, r.heap.get? h = some o ∧ r.Edit o o' ∧
        ∀ k, o'.refersTo k → o.refersTo k ∨ q.stores k) ∨
      ∀ k, o'.refersTo k → r'.heap.contains k = true ∨
        ∃ classTag, q = .allocate (some k) classTag := by
  have contains : ∀ {k}, r.heap.contains k = true → r'.heap.contains k = true :=
    effect.transition.contains
  cases effect with
  | quiet => exact .inl ⟨o', live', .keep, fun _ => .inl⟩
  | @edit k p p' events live edited stored =>
    by_cases same : h = k
    · subst same
      rw [Heap.get?_replace_self live] at live'
      cases live'
      exact .inl ⟨p, live, edited, stored⟩
    · rw [Heap.get?_replace_of_ne same] at live'
      exact .inl ⟨o', live', .keep, fun _ => .inl⟩
  | @alloc prototype classTag k heap allocated linked =>
    rw [Heap.get?_alloc allocated] at live'
    split at live'
    · cases live'
      refine .inr fun p refers => ?_
      obtain live | rfl | asked := linked p (OrdinaryObject.refersTo_tagged.1 refers)
      · exact .inl (contains live)
      · exact .inl (contains intrinsics.objectPrototype)
      · exact .inr ⟨classTag, asked⟩
    · exact .inl ⟨o', live', .keep, fun _ => .inl⟩
  | @createFunction k p heap heap' name body asked function prototype =>
    -- the function and its `prototype` refer to each other
    have added : ∀ {other}, other = k ∨ other = p →
        (heap'.modify k fun _ => r.linkedFunction p).contains other = true := by
      intro other new
      rw [Heap.contains_modify, Heap.contains_alloc prototype, Heap.contains_alloc function]
      exact new.elim (.inr ∘ .inl) .inl
    by_cases same : h = k
    · subst same
      have kLive : heap'.get? h = some r.newFunction :=
        Heap.get?_alloc_of_live prototype (by rw [Heap.get?_alloc function, if_pos rfl])
      rw [Heap.get?_replace_self kLive] at live'
      cases live'
      refine .inr fun other refers => .inl ?_
      obtain rfl | rfl := refersTo_linkedFunction refers
      · exact contains intrinsics.functionPrototype
      · exact added (.inr rfl)
    · rw [Heap.get?_replace_of_ne same, Heap.get?_alloc prototype, Heap.get?_alloc function,
        if_neg same] at live'
      split at live'
      · cases live'
        refine .inr fun other refers => .inl ?_
        obtain rfl | rfl := refersTo_newPrototype refers
        · exact contains intrinsics.objectPrototype
        · exact added (.inl rfl)
      · exact .inl ⟨o', live', .keep, fun _ => .inl⟩

/-! ## Dangling links -/

/-- Every prototype is an object. -/
def LinksLive (r : Realm β) : Prop :=
  ∀ h o p, r.heap.get? h = some o → o.prototype = some p → r.heap.contains p = true

theorem Edit.linked (edited : r.Edit o o') {p : ObjectHandle} (link : o'.prototype = some p) :
    o.prototype = some p ∨ r.heap.contains p = true := by
  cases edited with
  | define callable accepted =>
    obtain ⟨kind, properties, shape, rfl, -⟩ := OrdinaryObject.define_inv accepted
    exact .inl link
  | relink extensible live => exact .inr (live p link)
  | _ => exact .inl link

/-- The one way to a dangling link is an allocation that asks for a missing prototype. -/
theorem Effect.linksLive (effect : r.Effect q r') (intrinsics : r.IntrinsicsLive)
    (asked : ∀ p classTag, q = .allocate (some p) classTag → r.heap.contains p = true)
    (before : r.LinksLive) : r'.LinksLive := by
  intro h o' p live' link
  have contains : r.heap.contains p = true → r'.heap.contains p = true :=
    effect.transition.contains
  obtain ⟨o, live, edited, -⟩ | new := effect.object_inv intrinsics live'
  · obtain old | pLive := edited.linked link
    · exact contains (before h o p live old)
    · exact contains pLive
  · obtain pLive | ⟨classTag, rfl⟩ := new p (.inl link)
    · exact pLive
    · exact contains (asked p classTag rfl)

theorem Reachable.linksLive_perform (reachable : r.Reachable) (q : Request β)
    (asked : ∀ p classTag, q = .allocate (some p) classTag → r.heap.contains p = true)
    (before : r.LinksLive) : (r.perform q).2.LinksLive :=
  (r.perform_effect q).linksLive reachable.intrinsicsLive asked before

theorem ofConfig_linksLive (config : RealmConfig) : (ofConfig config : Realm β).LinksLive :=
  fun h o p live link => ofConfig_references config h o p live (.inl link)

/-- The realm has no dangling link, or comes from an allocation that made one. -/
theorem Reachable.linksLive_or (reachable : r.Reachable) :
    r.LinksLive ∨ ∃ (s : Realm β) (p : ObjectHandle) (classTag : String), s.Reachable ∧
      s.heap.contains p = false ∧ (s.perform (.allocate (some p) classTag)).2.Reaches r := by
  obtain ⟨config, start, valid, reaches⟩ := reachable
  let P (t : Realm β) : Prop := start.Reaches t ∧ t.IntrinsicsLive ∧
    (t.LinksLive ∨ ∃ (s : Realm β) (p : ObjectHandle) (classTag : String), s.Reachable ∧
      s.heap.contains p = false ∧ (s.perform (.allocate (some p) classTag)).2.Reaches t)
  have step : ∀ t q, P t → P (t.perform q).2 := by
    rintro t q ⟨before, intrinsics, links⟩
    have effect := t.perform_effect q
    refine ⟨.perform before q, effect.transition.intrinsicsLive intrinsics, ?_⟩
    obtain links | ⟨s, p, classTag, sReachable, missing, later⟩ := links
    · by_cases asks : ∃ p classTag, q = .allocate (some p) classTag ∧ t.heap.contains p = false
      · obtain ⟨p, classTag, rfl, missing⟩ := asks
        exact .inr ⟨t, p, classTag, ⟨config, start, valid, before⟩, missing, .refl⟩
      · refine .inl (effect.linksLive intrinsics (fun p classTag asked => ?_) links)
        exact Bool.of_not_eq_false fun missing => asks ⟨p, classTag, asked, missing⟩
    · exact .inr ⟨s, p, classTag, sReachable, missing, .perform later q⟩
  have holds : P r := by
    have fresh : P start := by
      obtain rfl := ofConfig_of_withConfig valid
      exact ⟨.refl, ofConfig_intrinsicsLive config, .inl (ofConfig_linksLive config)⟩
    induction reaches with
    | refl => exact fresh
    | perform before q ih => exact step _ q ih
    | run before bodies depth p ends ih => exact Program.run_keeps step ends ih
  exact holds.2.2

/-! ## Constructing -/

/-- Every function owns a `prototype`, a non-configurable data property. -/
def FunctionsOwnPrototypes (r : Realm β) : Prop :=
  ∀ f, r.isCallable f = true → ∃ o v w, r.heap.get? f = some o ∧
    o.getOwn? ⟨"prototype"⟩ = some (.data v w false false)

theorem Edit.ownsPrototype (edited : r.Edit o o')
    (before : ∃ v w, o.getOwn? ⟨"prototype"⟩ = some (.data v w false false)) :
    ∃ v w, o'.getOwn? ⟨"prototype"⟩ = some (.data v w false false) := by
  obtain ⟨v, w, owned⟩ := before
  obtain kept | ⟨v', e, v'', w'', same, rewritten⟩ := edited.fixed owned rfl
  · exact ⟨v, w, kept⟩
  · cases same
    exact ⟨v'', w'', rewritten⟩

theorem Transition.functionsOwnPrototypes (transition : r.Transition r')
    (before : r.FunctionsOwnPrototypes) : r'.FunctionsOwnPrototypes := by
  intro f callable
  cases old : r.isCallable f with
  | true =>
    obtain ⟨o, v, w, live, owned⟩ := before f old
    obtain ⟨o', live', edited⟩ := transition.object live
    obtain ⟨v', w', owned'⟩ := edited.ownsPrototype ⟨v, w, owned⟩
    exact ⟨o', v', w', live', owned'⟩
  | false =>
    cases transition with
    | quiet | edit | alloc => exact absurd (old.symm.trans callable) Bool.false_ne_true
    | @createFunction k p heap heap' name body function prototype =>
      rw [isCallable_insert, old] at callable
      obtain rfl : f = k := by simpa using callable
      have live : heap'.get? f = some r.newFunction :=
        Heap.get?_alloc_of_live prototype (by rw [Heap.get?_alloc function, if_pos rfl])
      exact ⟨r.linkedFunction p, .object p, true, Heap.get?_replace_self live _, rfl⟩

theorem Reachable.functionsOwnPrototypes (reachable : r.Reachable) :
    r.FunctionsOwnPrototypes := by
  refine reachable.invariant (fun transition => transition.functionsOwnPrototypes) ?_
  rintro config f ⟨⟩

/-- The rest of a construction once the prototype of the new object is known. -/
def constructFrom (prototype function : ObjectHandle) (args : List Value) :
    Program β σ ObjectHandle := do
  let object ← Program.allocate (some prototype) "Object"
  let returned ← Program.call function (.object object) args
  return returned.asObject?.getD object

/-- What a function constructs inherits from the object that its `prototype` holds, whether it
exists or not. -/
theorem run_construct {f : ObjectHandle} {v : Value} {w e c : Bool}
    (callable : r.isCallable f = true) (live : r.heap.get? f = some o)
    (owned : o.getOwn? ⟨"prototype"⟩ = some (.data v w e c)) (args : List Value)
    (bodies : β → Value → List Value → Program β σ Value) (depth : Nat) (state : σ) :
    (Program.construct f args).run bodies depth ⟨r, state⟩ =
      (constructFrom (v.asObject?.getD r.intrinsics.objectPrototype) f args).run bodies depth
        ⟨r, state⟩ := by
  have read : r.perform (.get f ⟨"prototype"⟩ (.object f)) = (.done (.ok v), r) :=
    get_own_data live owned (.object f)
  simp only [Program.construct, Program.requireCallable, Program.inspectOrThrow, Program.inspect,
    Program.getValue, Program.get, Program.request, bind, pure, Program.andThen, Program.run,
    Program.runWith, callable, if_true, read]
  rfl

/-- Prototype links dangle by allocations alone: no other operation makes a dangling link, and a
reachable realm with one comes from an allocation for which the prototype was missing.  Such an
allocation is part of every construction by a function whose `prototype` holds a missing object. -/
theorem dangling_links_from_allocation (reachable : r.Reachable) :
    (∀ q, (∀ p classTag, q = .allocate (some p) classTag → r.heap.contains p = true) →
        r.LinksLive → (r.perform q).2.LinksLive) ∧
      (r.LinksLive ∨ ∃ (s : Realm β) (p : ObjectHandle) (classTag : String), s.Reachable ∧
        s.heap.contains p = false ∧ (s.perform (.allocate (some p) classTag)).2.Reaches r) ∧
      ∀ f, r.isCallable f = true → ∃ o v w, r.heap.get? f = some o ∧
        o.getOwn? ⟨"prototype"⟩ = some (.data v w false false) ∧
        ∀ (args : List Value) {σ : Type} (bodies : β → Value → List Value → Program β σ Value)
          depth state,
          (Program.construct f args).run bodies depth ⟨r, state⟩ =
            (constructFrom (v.asObject?.getD r.intrinsics.objectPrototype) f args).run bodies
              depth ⟨r, state⟩ := by
  refine ⟨reachable.linksLive_perform, reachable.linksLive_or, fun f callable => ?_⟩
  obtain ⟨o, v, w, live, owned⟩ := reachable.functionsOwnPrototypes f callable
  exact ⟨o, v, w, live, owned, fun args _ bodies depth state =>
    run_construct callable live owned args bodies depth state⟩

/-- The links of a realm with a function, before and after an object is made that inherits from the
function's `prototype`. -/
theorem links_of_function_prototype :
    let r : Realm Unit := ((ofConfig {}).perform (.createFunction "f" ())).2
    let bodies : Unit → Value → List Value → Program Unit Unit Value := fun _ _ _ => pure .null
    r.LinksLive ∧ (r.perform (.createObject (some ⟨6⟩))).2.LinksLive ∧
      (Program.construct ⟨5⟩ []).run bodies 1 ⟨r, ()⟩ =
        (constructFrom ⟨6⟩ ⟨5⟩ []).run bodies 1 ⟨r, ()⟩ := by
  intro r bodies
  have fresh : (ofConfig {} : Realm Unit).Reachable := ⟨{}, ofConfig {}, rfl, .refl⟩
  have reachable : r.Reachable := ⟨{}, ofConfig {}, rfl, .perform .refl _⟩
  have links : r.LinksLive := (dangling_links_from_allocation fresh).1 _
    (fun _ _ asked => nomatch asked) (ofConfig_linksLive {})
  obtain ⟨steps, -, constructs⟩ := dangling_links_from_allocation reachable
  refine ⟨links, steps _ (fun _ _ asked => nomatch asked) links, ?_⟩
  obtain ⟨o, v, w, live, owned, runs⟩ := constructs ⟨5⟩ rfl
  obtain ⟨o', live', owned'⟩ : ∃ o', r.heap.get? ⟨5⟩ = some o' ∧
      o'.getOwn? ⟨"prototype"⟩ = some (.data (.object ⟨6⟩) true false false) := ⟨_, rfl, rfl⟩
  rw [live] at live'
  cases live'
  rw [owned] at owned'
  cases owned'
  exact runs [] bodies 1 ()

/-- A function whose `prototype` was assigned a missing object constructs an object that inherits
from that, although no object can be created with it as the prototype. -/
theorem constructed_object_dangles :
    let r : Realm Unit := (((ofConfig {}).perform (.createFunction "f" ())).2.perform
      (.put ⟨5⟩ ⟨"prototype"⟩ (.object ⟨99⟩) (.object ⟨5⟩))).2
    let bodies : Unit → Value → List Value → Program Unit Unit Value :=
      fun _ _ _ => pure .undefined
    r.LinksLive ∧
      (r.perform (.createObject (some ⟨99⟩))).1 = .done (.error (.objectNotFound ⟨99⟩)) ∧
      ∃ w o, (Program.construct ⟨5⟩ []).run bodies 1 ⟨r, ()⟩ = some (.ok ⟨7⟩, w) ∧
        w.realm.Reachable ∧ w.realm.heap.get? ⟨7⟩ = some o ∧ o.prototype = some ⟨99⟩ ∧
        w.realm.heap.contains ⟨99⟩ = false ∧ ¬w.realm.LinksLive := by
  intro r bodies
  have fresh : (ofConfig {} : Realm Unit).Reachable := ⟨{}, ofConfig {}, rfl, .refl⟩
  have created : ((ofConfig {} : Realm Unit).perform (.createFunction "f" ())).2.Reachable :=
    ⟨{}, ofConfig {}, rfl, .perform .refl _⟩
  have links : r.LinksLive :=
    created.linksLive_perform _ (fun _ _ asked => nomatch asked)
      (fresh.linksLive_perform _ (fun _ _ asked => nomatch asked) (ofConfig_linksLive {}))
  have reaches : (ofConfig {}).Reaches r := .perform (.perform .refl _) _
  have reachable : ∀ {w}, (Program.construct ⟨5⟩ []).run bodies 1 ⟨r, ()⟩ = some (.ok ⟨7⟩, w) →
      w.realm.Reachable :=
    fun ends => ⟨{}, ofConfig {}, rfl, .run reaches bodies 1 _ ends⟩
  refine ⟨links, rfl, _, _, rfl, reachable rfl, rfl, rfl, rfl, fun live => ?_⟩
  exact absurd (live ⟨7⟩ _ ⟨99⟩ rfl rfl) (by decide)

end Realm

end ObjectModel
