import ObjectModel.Proofs.Run
import ObjectModel.Proofs.Transition

/-!
# Reachable realms

`Realm.Reaches` closes a realm under single operations and under runs of whole programs.  The
single operations are also the points inside a run, seen by the body of a function that is running;
the runs are everything else that can be written: constructors, object initialisers, the array
algorithms, with functions whose bodies are programs again.

What every transition keeps of a realm is kept wherever the realm gets to (`Reaches.invariant`), and
so is what every edit keeps of an object (`Reaches.object`).
-/

namespace ObjectModel

variable {β : Type}

namespace Realm

/-- The realms that a realm can get to: by single operations, among them those that the body of a
running function asks for, and by runs of programs, whatever the bodies of functions are. -/
inductive Reaches (r : Realm β) : Realm β → Prop where
  | refl : Reaches r r
  | perform {s : Realm β} (before : Reaches r s) (q : Request β) : Reaches r (s.perform q).2
  | run {s : Realm β} (before : Reaches r s) {σ α : Type}
      (bodies : β → Value → List Value → Program β σ Value) (depth : Nat) (p : Program β σ α)
      {state : σ} {result : Except ObjectError α} {w : World β σ}
      (ends : p.run bodies depth ⟨s, state⟩ = some (result, w)) : Reaches r w.realm

/-- A realm that a new realm can get to. -/
def Reachable (r : Realm β) : Prop :=
  ∃ config start, withConfig config = .ok start ∧ start.Reaches r

theorem ofConfig_of_withConfig {config : RealmConfig} {start : Realm β}
    (valid : withConfig config = .ok start) : start = ofConfig config := by
  simp only [withConfig, RealmConfig.validate, bind, Except.bind] at valid
  cases fault : config.fault? with
  | some f => rw [fault] at valid; cases valid
  | none => rw [fault] at valid; cases valid; rfl

variable {r r' : Realm β}

theorem Reaches.invariant {P : Realm β → Prop} (reaches : r.Reaches r')
    (step : ∀ {s s' : Realm β}, s.Transition s' → P s → P s') (start : P r) : P r' := by
  have performs : ∀ s q, P s → P (s.perform q).2 := fun s q => step (s.perform_transition q)
  induction reaches with
  | refl => exact start
  | perform before q ih => exact performs _ q ih
  | run before bodies depth p ends ih => exact Program.run_keeps performs ends ih

theorem Reachable.invariant {P : Realm β → Prop} (reachable : r.Reachable)
    (step : ∀ {s s' : Realm β}, s.Transition s' → P s → P s')
    (start : ∀ config, P (ofConfig config)) : P r := by
  obtain ⟨config, s, valid, reaches⟩ := reachable
  obtain rfl := ofConfig_of_withConfig valid
  exact reaches.invariant step (start config)

/-! ## What a transition keeps -/

theorem Transition.intrinsics_eq (transition : r.Transition r') :
    r'.intrinsics = r.intrinsics := by
  cases transition <;> rfl

theorem Transition.isCallable (transition : r.Transition r') {f : ObjectHandle}
    (callable : r.isCallable f = true) : r'.isCallable f = true := by
  cases transition with
  | quiet | edit | alloc => exact callable
  | createFunction name body function prototype =>
    rw [Realm.isCallable, OrderedMap.contains_iff_mem_keys] at callable ⊢
    rw [OrderedMap.keys_insert]
    split
    · exact callable
    · exact List.mem_append_left _ callable

/-- An object stays, and is edited at most once. -/
theorem Transition.object (transition : r.Transition r') {h : ObjectHandle} {o : OrdinaryObject}
    (live : r.heap.get? h = some o) : ∃ o', r'.heap.get? h = some o' ∧ r.Edit o o' := by
  cases transition with
  | quiet => exact ⟨o, live, .keep⟩
  | @edit k p p' events kLive edited =>
    by_cases same : h = k
    · subst same
      rw [live] at kLive
      cases kLive
      exact ⟨p', Heap.get?_replace_self live p', edited⟩
    · exact ⟨o, by rw [← live]; exact Heap.get?_replace_of_ne same r.heap p', .keep⟩
  | alloc allocated => exact ⟨o, Heap.get?_alloc_of_live allocated live, .keep⟩
  | createFunction name body function prototype =>
    refine ⟨o, ?_, .keep⟩
    rw [Heap.get?_replace_of_ne]
    · exact Heap.get?_alloc_of_live prototype (Heap.get?_alloc_of_live function live)
    · rintro rfl
      rw [Heap.get?_of_alloc function] at live
      cases live

/-- The objects that an operation may add. -/
inductive Added (r : Realm β) : OrdinaryObject → Prop where
  | tagged (prototype : Option ObjectHandle) (classTag : String) :
      Added r (.tagged prototype classTag)
  | newPrototype (function : ObjectHandle) : Added r (r.newPrototype function)
  | linkedFunction (prototype : ObjectHandle) : Added r (r.linkedFunction prototype)

/-- An object was there before and is edited at most once, or is new. -/
theorem Transition.object_inv (transition : r.Transition r') {h : ObjectHandle}
    {o' : OrdinaryObject} (live' : r'.heap.get? h = some o') :
    (∃ o, r.heap.get? h = some o ∧ r.Edit o o') ∨ (r.heap.get? h = none ∧ r.Added o') := by
  cases before : r.heap.get? h with
  | some o =>
    obtain ⟨o'', live'', edited⟩ := transition.object before
    rw [live'] at live''
    cases live''
    exact .inl ⟨o, rfl, edited⟩
  | none =>
    refine .inr ⟨rfl, ?_⟩
    cases transition with
    | quiet => rw [before] at live'; cases live'
    | @edit k p p' events live edited =>
      rw [Heap.get?_modify, before] at live'
      split at live' <;> cases live'
    | @alloc prototype classTag k heap allocated =>
      rw [Heap.get?_alloc allocated, before] at live'
      split at live'
      · cases live'; exact .tagged prototype classTag
      · cases live'
    | @createFunction k p heap heap' name body function prototype =>
      rw [Heap.get?_modify, Heap.get?_alloc prototype, Heap.get?_alloc function, before] at live'
      split at live'
      · obtain ⟨q, -, rfl⟩ := Option.map_eq_some_iff.1 live'
        exact .linkedFunction p
      · next other =>
        split at live'
        · cases live'; exact .newPrototype k
        · rw [if_neg (Ne.symm other)] at live'; cases live'

/-- What every edit keeps of an object is kept of it wherever its realm gets to. -/
theorem Reaches.object {P : OrdinaryObject → Prop} (reaches : r.Reaches r')
    (edits : ∀ {s : Realm β} {o o' : OrdinaryObject}, s.Edit o o' → P o → P o')
    {h : ObjectHandle} {o : OrdinaryObject} (live : r.heap.get? h = some o) (start : P o) :
    ∃ o', r'.heap.get? h = some o' ∧ P o' := by
  apply reaches.invariant (P := fun s => ∃ o', s.heap.get? h = some o' ∧ P o') _ ⟨o, live, start⟩
  rintro s s' transition ⟨p, pLive, holds⟩
  obtain ⟨p', pLive', edited⟩ := transition.object pLive
  exact ⟨p', pLive', edits edited holds⟩

theorem Reaches.intrinsics_eq (reaches : r.Reaches r') : r'.intrinsics = r.intrinsics :=
  reaches.invariant (P := fun s => s.intrinsics = r.intrinsics)
    (fun transition same => transition.intrinsics_eq.trans same) rfl

end Realm

end ObjectModel
