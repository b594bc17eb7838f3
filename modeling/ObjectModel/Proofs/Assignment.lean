import ObjectModel.Proofs.Callability

/-!
# Assignment against its reference

`Reference.put` is `[[Put]]` (ES5 §8.12.5) behind `[[CanPut]]` (§8.12.4): an assignment that is
allowed and meets no setter is a definition, of the value alone if the object has the property and
of an open data property otherwise.  `Realm.put` never defines; it stores the property it has made
itself.

The two leave the same heap up to `Value.sameValue` (`put_agrees_with_reconciliation`), since a
definition of a value that is the same already leaves the old one in place.  On one object this is
`define_value_of_own` and `define_open_of_absent`.
-/

namespace ObjectModel

variable {β : Type}

/-! ## Heaps up to the identity of values -/

/-- The same slots, the same keys in the same order, and under each key the same property. -/
structure OrdinaryObject.SameAs (o p : OrdinaryObject) : Prop where
  slots : { o with properties := p.properties } = p
  keys : o.properties.keys = p.properties.keys
  properties : ∀ key, Option.Rel (fun d e => d.sameAs e = true) (o.getOwn? key) (p.getOwn? key)

/-- The same object under every handle. -/
def Heap.SameAs (heap heap' : Heap) : Prop :=
  ∀ h, Option.Rel OrdinaryObject.SameAs (heap.get? h) (heap'.get? h)

theorem optionRel_refl {α : Type} {R : α → α → Prop} (refl : ∀ a, R a a) (o : Option α) :
    Option.Rel R o o := by
  cases o with
  | none => exact .none
  | some a => exact .some (refl a)

theorem OrdinaryObject.SameAs.refl (o : OrdinaryObject) : o.SameAs o where
  slots := rfl
  keys := rfl
  properties key := optionRel_refl PropertyDescriptor.sameAs_refl (o.getOwn? key)

theorem Heap.SameAs.refl (heap : Heap) : heap.SameAs heap := fun h =>
  optionRel_refl OrdinaryObject.SameAs.refl (heap.get? h)

theorem Heap.SameAs.replace {o o' : OrdinaryObject} (same : o.SameAs o') (heap : Heap)
    (h : ObjectHandle) :
    (heap.modify h fun _ => o).SameAs (heap.modify h fun _ => o') := by
  intro k
  rw [get?_modify, get?_modify]
  split
  · cases heap.get? k with
    | none => exact .none
    | some _ => exact .some same
  · exact optionRel_refl OrdinaryObject.SameAs.refl (heap.get? k)

/-! ## The reference -/

namespace Reference

/-- `[[CanPut]]`: may an assignment to the key change the object?  `shown` is the property that the
chain of the object shows under the key. -/
def canPut (o : OrdinaryObject) (key : PropertyKey) (shown : Option PropertyDescriptor) : Bool :=
  match shown with
  | some (.accessor _ setter _ _) => setter.isSome
  | some (.data _ writable _ _) => writable && (o.hasOwn key || o.extensible)
  | none => o.extensible

/-- The literal that an assignment without a setter defines the key with. -/
def putFields (o : OrdinaryObject) (key : PropertyKey) (value : Value) : DescriptorFields :=
  if o.hasOwn key then { value := some value }
  else
    { value := some value, writable := some true, enumerable := some true,
      configurable := some true }

/-- What an assignment comes to. -/
inductive PutEffect where
  /-- A setter is to be called. -/
  | call (setter : ObjectHandle)
  /-- The assignment is over and this is the heap. -/
  | leave (heap : Heap)

/-- `[[Put]]`. -/
def put (heap : Heap) (object : ObjectHandle) (key : PropertyKey) (value : Value) (maxHops : Nat) :
    Except ObjectError PutEffect := do
  let o ← heap.get object
  let lookup ← heap.findProperty object key maxHops
  let shown := lookup.found.map Prod.snd
  if !canPut o key shown then return .leave heap
  match shown.bind PropertyDescriptor.setter? with
  | some setter => return .call setter
  | none =>
    match o.define key (putFields o key value) with
    | .ok (_, o) => return .leave (heap.modify object fun _ => o)
    | .error e => throw (.define e)

end Reference

/-! ## Assignment on one object -/

namespace OrdinaryObject

variable {o : OrdinaryObject} {key : PropertyKey}

/-- Defining the value of a writable data property stores that value, or leaves one that is the
same. -/
theorem define_value_of_own {old : Value} {e c : Bool}
    (owned : o.getOwn? key = some (.data old true e c)) (value : Value) :
    ∃ outcome o', o.define key { value := some value } = .ok (outcome, o') ∧
      (o.setOwn key (.data value true e c)).SameAs o' := by
  have admitted : (PropertyDescriptor.data old true e c).verdict { value := some value } .data key =
      .ok () := by
    cases c <;> rfl
  have shape : ({ value := some value } : DescriptorFields).classify = .ok .data := rfl
  have defined := PropertyTable.define_admitted shape owned admitted o.extensible
  have merged : (PropertyDescriptor.data old true e c).merge { value := some value } .data =
      .data value true e c := rfl
  rw [merged] at defined
  rw [define, defined]
  -- a value that is the same already is left in place, where an assignment stores the new one
  cases same : (PropertyDescriptor.data value true e c).sameAs (.data old true e c) with
  | false => exact ⟨_, _, rfl, .refl _⟩
  | true =>
    refine ⟨_, _, rfl, rfl, keys_setOwn_of_getOwn? owned _, fun other => ?_⟩
    rw [getOwn?_setOwn]
    by_cases this : key = other
    · subst this
      rw [if_pos rfl]
      show Option.Rel _ _ (o.getOwn? key)
      rw [owned]
      exact .some same
    · rw [if_neg this]
      exact optionRel_refl PropertyDescriptor.sameAs_refl (o.getOwn? other)

theorem define_open_of_absent (extensible : o.extensible = true) (absent : o.getOwn? key = none)
    (value : Value) :
    o.define key (.ofDescriptor (.openData value)) =
      .ok (.created, o.setOwn key (.openData value)) := by
  have defined := PropertyTable.define_ofDescriptor_absent absent (.openData value)
  rw [define, extensible, defined, ← extensible]
  rfl

end OrdinaryObject

/-! ## Assignment in a realm -/

namespace Reference

variable {heap : Heap} {object : ObjectHandle} {o : OrdinaryObject} {key : PropertyKey}
  {value : Value} {maxHops : Nat} {lookup : PropertyLookup}

theorem putFields_of_own {p : PropertyDescriptor} (owned : o.getOwn? key = some p)
    (value : Value) : putFields o key value = { value := some value } :=
  if_pos ((o.hasOwn_iff key).2 ⟨p, owned⟩)

theorem putFields_of_absent (absent : o.getOwn? key = none) (value : Value) :
    putFields o key value = .ofDescriptor (.openData value) := by
  rw [putFields, (o.hasOwn_eq_false_iff key).2 absent]
  rfl

/-- Where the chain shows no more than a writable data property of another object, all depends on
extensibility. -/
theorem canPut_of_absent (absent : o.getOwn? key = none)
    (writable : lookup.found.all (·.2.isWritable) = true) :
    canPut o key (lookup.found.map Prod.snd) = o.extensible ∧
      (lookup.found.map Prod.snd).bind PropertyDescriptor.setter? = none := by
  have lacks := (o.hasOwn_eq_false_iff key).2 absent
  obtain ⟨found, truncation⟩ := lookup
  cases found with
  | none => exact ⟨rfl, rfl⟩
  | some entry =>
    obtain ⟨owner, shown⟩ := entry
    cases shown with
    | accessor => cases writable
    | data v w e c =>
      cases w with
      | false => cases writable
      | true => exact ⟨by simp [canPut, lacks], rfl⟩

section Effects

variable (live : heap.get? object = some o)
  (ends : heap.findProperty object key maxHops = .ok lookup)

include live ends

theorem put_refused (refused : canPut o key (lookup.found.map Prod.snd) = false) :
    put heap object key value maxHops = .ok (.leave heap) := by
  simp only [put, Heap.get_of_live live, ends, bind, Except.bind, refused]
  rfl

theorem put_setter {setter : ObjectHandle}
    (allowed : canPut o key (lookup.found.map Prod.snd) = true)
    (found : (lookup.found.map Prod.snd).bind PropertyDescriptor.setter? = some setter) :
    put heap object key value maxHops = .ok (.call setter) := by
  simp only [put, Heap.get_of_live live, ends, bind, Except.bind, allowed, found]
  rfl

theorem put_defined {outcome : DefineOutcome} {o' : OrdinaryObject}
    (allowed : canPut o key (lookup.found.map Prod.snd) = true)
    (noSetter : (lookup.found.map Prod.snd).bind PropertyDescriptor.setter? = none)
    (defined : o.define key (putFields o key value) = .ok (outcome, o')) :
    put heap object key value maxHops = .ok (.leave (heap.modify object fun _ => o')) := by
  simp only [put, Heap.get_of_live live, ends, bind, Except.bind, allowed, noSetter, defined]
  rfl

end Effects

end Reference

namespace Realm

variable {r : Realm β} {object : ObjectHandle} {o : OrdinaryObject} {key : PropertyKey}
  {value receiver : Value}

/-- What an assignment without a setter leaves: the heap of the reference, with all other objects
and all other properties of the object as they were. -/
structure Assigned (r r' : Realm β) (object : ObjectHandle) (key : PropertyKey)
    (reference : Heap) : Prop where
  heap : r'.heap.SameAs reference
  objects : ∀ h, h ≠ object → r'.heap.get? h = r.heap.get? h
  properties : ∀ o, r.heap.get? object = some o → ∃ o', r'.heap.get? object = some o' ∧
    { o' with properties := o.properties } = o ∧
    ∀ other, other ≠ key → o'.getOwn? other = o.getOwn? other

theorem Assigned.ignored (r : Realm β) (object : ObjectHandle) (key : PropertyKey)
    (events : EventLog) : r.Assigned { r with events } object key r.heap where
  heap := .refl r.heap
  objects _ _ := rfl
  properties o live := ⟨o, live, rfl, fun _ _ => rfl⟩

theorem Assigned.stored {p : PropertyDescriptor} {o' : OrdinaryObject}
    (live : r.heap.get? object = some o) (same : (o.setOwn key p).SameAs o') (events : EventLog) :
    r.Assigned { r with heap := r.heap.modify object fun _ => o.setOwn key p, events } object key
      (r.heap.modify object fun _ => o') where
  heap := .replace same r.heap object
  objects h other := Heap.get?_replace_of_ne other r.heap _
  properties q qLive := by
    rw [live] at qLive
    cases qLive
    refine ⟨o.setOwn key p, Heap.get?_replace_self live _, rfl, fun other differs => ?_⟩
    rw [OrdinaryObject.getOwn?_setOwn, if_neg (Ne.symm differs)]

/-- An assignment does what the reference comes to. -/
def PutAgrees (r : Realm β) (object : ObjectHandle) (key : PropertyKey) (value receiver : Value) :
    Reference.PutEffect → Prop
  | .call setter => ∃ f, r.functions.get? setter = some f ∧
    r.put object key value receiver = (.call f.body receiver [value] (fun _ => ()), r)
  | .leave reference => ∃ r', r.put object key value receiver = (.done (.ok ()), r') ∧
    r.Assigned r' object key reference

theorem put_agrees (callable : r.AccessorsCallable) (live : r.heap.get? object = some o)
    (key : PropertyKey) (value receiver : Value) :
    ∃ effect, Reference.put r.heap object key value r.maxHops = .ok effect ∧
      r.PutAgrees object key value receiver effect := by
  have step := r.put_cases object key value receiver
  generalize answered : r.put object key value receiver = result at step
  cases step with
  | missing fails =>
    obtain ⟨lookup, ends⟩ := Heap.findProperty_of_live live key r.maxHops
    rw [fails] at ends
    cases ends
  | @setter owner get setter e c ends =>
    obtain ⟨⟨q, ownerLive, owned⟩, -⟩ := Heap.findProperty_found ends rfl
    -- only definitions store setters, and they check that these can be called
    have known : r.isCallable setter = true :=
      callable owner q ownerLive key _ setter owned (.inr rfl)
    obtain ⟨f, registered⟩ := Option.isSome_iff_exists.1 known
    refine ⟨_, Reference.put_setter live ends rfl rfl, f, registered, ?_⟩
    rw [answered, call, registered]
  | noSetter ends | nonWritable ends =>
    exact ⟨_, Reference.put_refused live ends rfl, _, answered, .ignored r object key _⟩
  | @write p old e c pLive owned =>
    rw [live] at pLive
    cases pLive
    have ends := Heap.findProperty_of_own live owned r.maxHops
    have allowed : Reference.canPut o key (some (.data old true e c)) = true := by
      rw [Reference.canPut, (o.hasOwn_iff key).2 ⟨_, owned⟩]
      rfl
    obtain ⟨outcome, o', defined, stored⟩ := OrdinaryObject.define_value_of_own owned value
    rw [← Reference.putFields_of_own owned] at defined
    exact ⟨_, Reference.put_defined live ends allowed rfl defined, _, answered,
      .stored live stored r.events⟩
  | @add p lookup pLive ends absent writable extensible =>
    rw [live] at pLive
    cases pLive
    obtain ⟨allowed, noSetter⟩ := Reference.canPut_of_absent absent writable
    have defined := OrdinaryObject.define_open_of_absent extensible absent value
    rw [← Reference.putFields_of_absent absent] at defined
    obtain ⟨events, noted⟩ := r.noteTruncation_eq object (some key) lookup.truncation
    rw [noted] at answered
    exact ⟨_, Reference.put_defined live ends (allowed.trans extensible) noSetter defined, _,
      answered, .stored live (.refl _) events⟩
  | @closed p lookup pLive ends absent writable extensible =>
    rw [live] at pLive
    cases pLive
    obtain ⟨allowed, -⟩ := Reference.canPut_of_absent absent writable
    obtain ⟨events, noted⟩ := r.noteTruncation_eq object (some key) lookup.truncation
    rw [noted] at answered
    exact ⟨_, Reference.put_refused live ends (allowed.trans extensible), _, answered,
      .ignored r object key _⟩

/-- In a reachable realm an assignment calls the setter that the reference calls, once and before
anything has changed, or ends with the heap of the reference. -/
theorem put_agrees_with_reconciliation (reachable : r.Reachable)
    (live : r.heap.get? object = some o) (key : PropertyKey) (value receiver : Value) :
    ∃ effect, Reference.put r.heap object key value r.maxHops = .ok effect ∧
      match effect with
      | .call setter => ∃ f, r.functions.get? setter = some f ∧
        ∀ {σ : Type} (bodies : β → Value → List Value → Program β σ Value) depth state,
          (Program.put object key value receiver).run bodies depth ⟨r, state⟩ =
            (Program.runBody bodies depth f.body receiver [value] ⟨r, state⟩).map
              fun (result, w) => (result.map fun _ => (), w)
      | .leave reference => ∃ r', r.Assigned r' object key reference ∧
        ∀ {σ : Type} (bodies : β → Value → List Value → Program β σ Value) depth state,
          (Program.put object key value receiver).run bodies depth ⟨r, state⟩ =
            some (.ok (), ⟨r', state⟩) := by
  obtain ⟨effect, comes, agrees⟩ := put_agrees reachable.accessorsCallable live key value receiver
  refine ⟨effect, comes, ?_⟩
  cases effect with
  | call setter =>
    obtain ⟨f, registered, called⟩ := agrees
    exact ⟨f, registered, fun bodies depth state =>
      Program.run_request_call (q := .put object key value receiver) called bodies depth state⟩
  | leave reference =>
    obtain ⟨r', put, assigned⟩ := agrees
    exact ⟨r', assigned, fun bodies depth state =>
      Program.run_request_done (q := .put object key value receiver) put bodies depth state⟩

/-- An object with a setter, assigned to under the key of the setter and under another one. -/
theorem object_with_setter_agrees :
    let r : Realm Unit := ((((ofConfig {}).perform (.createFunction "f" ())).2.perform
      .newObject).2.perform (.define ⟨7⟩ ⟨"x"⟩ { set := some (some ⟨5⟩) })).2
    (∃ f, r.functions.get? ⟨5⟩ = some f ∧
      ∀ (bodies : Unit → Value → List Value → Program Unit Unit Value) depth,
        (Program.put ⟨7⟩ ⟨"x"⟩ .null .undefined).run bodies depth ⟨r, ()⟩ =
          (Program.runBody bodies depth f.body .undefined [.null] ⟨r, ()⟩).map
            fun (result, w) => (result.map fun _ => (), w)) ∧
      ∃ r' reference, Reference.put r.heap ⟨7⟩ ⟨"y"⟩ .null r.maxHops = .ok (.leave reference) ∧
        r.Assigned r' ⟨7⟩ ⟨"y"⟩ reference := by
  intro r
  have reachable : r.Reachable :=
    ⟨{}, ofConfig {}, rfl, .perform (.perform (.perform .refl _) _) _⟩
  obtain ⟨o, live⟩ : ∃ o, r.heap.get? ⟨7⟩ = some o := ⟨_, rfl⟩
  constructor
  · obtain ⟨effect, comes, agrees⟩ :=
      put_agrees_with_reconciliation reachable live ⟨"x"⟩ .null .undefined
    have calls : Reference.put r.heap ⟨7⟩ ⟨"x"⟩ .null r.maxHops = .ok (.call ⟨5⟩) := rfl
    rw [calls] at comes
    cases comes
    obtain ⟨f, registered, runs⟩ := agrees
    exact ⟨f, registered, fun bodies depth => runs bodies depth ()⟩
  · obtain ⟨effect, comes, agrees⟩ :=
      put_agrees_with_reconciliation reachable live ⟨"y"⟩ .null .undefined
    obtain ⟨reference, leaves⟩ : ∃ reference,
        Reference.put r.heap ⟨7⟩ ⟨"y"⟩ .null r.maxHops = .ok (.leave reference) := ⟨_, rfl⟩
    rw [leaves] at comes
    cases comes
    obtain ⟨r', assigned, -⟩ := agrees
    exact ⟨r', reference, leaves, assigned⟩

end Realm

end ObjectModel
