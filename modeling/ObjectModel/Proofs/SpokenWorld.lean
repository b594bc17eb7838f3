import ObjectModel.Proofs.ClosedWorld
import ObjectModel.Proofs.Vocabulary

/-!
# The strings of a scenario

The world of a scenario speaks in a vocabulary if its realm does, and if the cells and the host
functions hold no other strings (`SpokenWorld`).  Operations and host functions hand strings on as
they are, so one rule is enough for whatever a scenario asks of its realm (`SpokenWorld.request`).

`Program.Speaks` is the specification of the programs of scenarios: the worlds that they come by
speak, and so do the errors that they end with.
-/

namespace ObjectModel

variable {α γ : Type} {vocabulary : String → Prop}

/-! ## Worlds of scenarios -/

/-- All strings in properties, cells and host functions are from the vocabulary. -/
structure SpokenWorld (vocabulary : String → Prop) (w : World ScenarioFunction Cells) : Prop where
  realm : w.realm.Speaks vocabulary
  cells : ∀ cell v, w.host.get? cell = some v → v.Speaks vocabulary
  constants : ∀ f function v, w.realm.functions.get? f = some function →
    function.body.action = .returnConstant v → v.Speaks vocabulary

/-- The worlds that the run of a program comes by speak in the vocabulary; its value is as stated,
or its error speaks in the vocabulary. -/
def Program.Speaks (vocabulary : String → Prop) (p : ScenarioProgram α)
    (w : World ScenarioFunction Cells) (Holds : α → Prop) : Prop :=
  p.Upholds ScenarioFunction.run 1 (SpokenWorld vocabulary) w
    fun result _ => Meets Holds (ObjectError.Speaks vocabulary) result

/-- A new realm holds no strings at all. -/
theorem ofConfig_spokenWorld (config : RealmConfig) :
    SpokenWorld vocabulary ⟨.ofConfig config, .empty⟩ where
  realm := Realm.ofConfig_speaks config
  cells := nofun
  constants := nofun

namespace SpokenWorld

variable {w : World ScenarioFunction Cells} {r : Realm ScenarioFunction} {cells : Cells}

theorem read (spoken : SpokenWorld vocabulary ⟨r, cells⟩) (cell : String) :
    (cells.read cell).Speaks vocabulary := by
  rw [Cells.read]
  cases held : cells.get? cell with
  | none => rintro _ ⟨⟩
  | some v => exact spoken.cells cell v held

theorem setCell (spoken : SpokenWorld vocabulary ⟨r, cells⟩) (cell : String) {v : Value}
    (speaks : v.Speaks vocabulary) : SpokenWorld vocabulary ⟨r, cells.insert cell v⟩ where
  realm := spoken.realm
  cells other u held := by
    simp only [OrderedMap.get?_insert] at held
    split at held
    · cases held
      exact speaks
    · exact spoken.cells other u held
  constants := spoken.constants

theorem updateCells (spoken : SpokenWorld vocabulary ⟨r, cells⟩) (function : ScenarioFunction)
    {this : Value} {args : List Value} (receiver : this.Speaks vocabulary)
    (given : ∀ a ∈ args, a.Speaks vocabulary) :
    SpokenWorld vocabulary ⟨r, function.updateCells this args cells⟩ := by
  obtain ⟨action, recordReceiver⟩ := function
  -- the receiver is recorded before the action writes, so it is no matter what is in the cells
  have written : ∀ {cells}, SpokenWorld vocabulary ⟨r, cells⟩ →
      SpokenWorld vocabulary
        ⟨r, (ScenarioFunction.mk action none).updateCells this args cells⟩ := by
    intro cells spoken
    cases action with
    | returnConstant | readCell => exact spoken
    | writeCell cell =>
      refine spoken.setCell cell ?_
      cases args with
      | nil => exact nofun
      | cons first rest => exact given first List.mem_cons_self
  cases recordReceiver with
  | none => exact written spoken
  | some cell => exact written (spoken.setCell cell receiver)

theorem result (spoken : SpokenWorld vocabulary ⟨r, cells⟩) (function : ScenarioFunction)
    (constant : ∀ v, function.action = .returnConstant v → v.Speaks vocabulary) :
    (function.result cells).Speaks vocabulary := by
  obtain ⟨action, recordReceiver⟩ := function
  cases action with
  | returnConstant v => exact constant v rfl
  | readCell cell plus =>
    cases plus with
    | none => exact spoken.read cell
    | some x => exact nofun
  | writeCell cell => exact nofun

/-- An operation that is given values from the vocabulary, be it for a host function. -/
theorem request (spoken : SpokenWorld vocabulary w) {q : Request ScenarioFunction}
    (given : q.Speaks vocabulary)
    (constant : ∀ v, q.givesConstant v → v.Speaks vocabulary) :
    (Program.request q).Speaks vocabulary w (q.AnswerSpeaks vocabulary) := by
  have utters := Realm.Speaks.perform spoken.realm given
  have effect := w.realm.perform_effect q
  have after : (w.realm.perform q).2.Speaks vocabulary →
      SpokenWorld vocabulary ⟨(w.realm.perform q).2, w.host⟩ := fun realm =>
    { realm
      cells := spoken.cells
      constants := by
        intro f function v registered action
        obtain old | ⟨name, asked⟩ := effect.function_inv registered
        · exact spoken.constants f function v old action
        · subst asked
          exact constant v action }
  refine Program.Upholds.request spoken ?_
  generalize w.realm.perform q = answer at utters after
  cases utters with
  | done speaks meets => exact ⟨after speaks, meets⟩
  | @call f function this args finish s speaks registered receiver values finishes =>
    -- the body returns what it holds, or what the cells do
    have before := after speaks
    have cells := before.updateCells function.body receiver values
    have returned := cells.result function.body
      fun v action => before.constants f function v registered action
    exact .host before (.done cells (finishes _ returned))
  | exhausted speaks => exact after speaks

end SpokenWorld

/-! ## Programs of scenarios -/

section Programs

variable {w : World ScenarioFunction Cells}

namespace Program.Speaks

variable {Mid : α → Prop} {Holds : γ → Prop}

theorem done (spoken : SpokenWorld vocabulary w) {result : Except ObjectError α}
    (meets : Meets Mid (ObjectError.Speaks vocabulary) result) :
    (Program.done result).Speaks vocabulary w Mid :=
  Upholds.done spoken meets

theorem bind {p : ScenarioProgram α} {f : α → ScenarioProgram γ}
    (first : p.Speaks vocabulary w Mid)
    (rest : ∀ a w', SpokenWorld vocabulary w' → Mid a → (f a).Speaks vocabulary w' Holds) :
    Program.Speaks vocabulary (p >>= f) w Holds :=
  Upholds.andThen first (fun a w' _ spoken holds => rest a w' spoken holds) fun _ _ speaks => speaks

theorem bind_inspectOrThrow (spoken : SpokenWorld vocabulary w)
    {f : Realm ScenarioFunction → Except ObjectError α} {next : α → ScenarioProgram γ}
    (fails : Meets Mid (ObjectError.Speaks vocabulary) (f w.realm))
    (rest : ∀ a, Mid a → (next a).Speaks vocabulary w Holds) :
    Program.Speaks vocabulary (Program.inspectOrThrow f >>= next) w Holds := by
  apply Upholds.look
  show Program.Speaks vocabulary ((Program.done (f w.realm)).andThen next) w Holds
  cases seen : f w.realm with
  | ok a =>
    rw [seen] at fails
    exact rest a fails
  | error e =>
    rw [seen] at fails
    exact done spoken fails

end Program.Speaks

namespace SpokenWorld

variable (spoken : SpokenWorld vocabulary w)

include spoken

theorem get (object : ObjectHandle) (key : PropertyKey) {receiver : Value}
    (receives : receiver.Speaks vocabulary) :
    (Program.get object key receiver).Speaks vocabulary w (Value.Speaks vocabulary) :=
  spoken.request (q := .get object key receiver) receives nofun

theorem define (object : ObjectHandle) (key : PropertyKey) (named : vocabulary key.text)
    {fields : DescriptorFields} (given : fields.Speaks vocabulary) :
    (Program.define object key fields).Speaks vocabulary w fun _ => True :=
  spoken.request (q := .define object key fields) ⟨named, given⟩ nofun

theorem object (h : ObjectHandle) : (Program.object h).Speaks vocabulary w fun _ => True :=
  .look (.done spoken (w.realm.heap.get_fails h))

theorem hostState : Program.hostState.Speaks vocabulary w
    fun cells : Cells => ∀ cell, (cells.read cell).Speaks vocabulary :=
  .host spoken (.done spoken spoken.read)

theorem modifyHost (cell : String) {v : Value} (speaks : v.Speaks vocabulary) :
    Program.Speaks vocabulary (Program.modifyHost fun cells : Cells => cells.insert cell v) w
      fun _ => True :=
  .host spoken (.done (spoken.setCell cell speaks) trivial)

theorem construct (function : ObjectHandle) :
    (Program.construct function []).Speaks vocabulary w fun _ => True := by
  have checked : Meets (fun _ => True) (ObjectError.Speaks vocabulary)
      (if w.realm.isCallable function then .ok () else .error (w.realm.callError function)) := by
    split
    · trivial
    · exact w.realm.callError_speaks function
  refine .bind_inspectOrThrow spoken checked fun _ _ => .look ?_
  refine (spoken.get function _ (Value.speaks_object function)).bind fun v w₁ spoken₁ _ => ?_
  refine (spoken₁.request (q := .allocate _ _) trivial nofun).bind fun object w₂ spoken₂ _ => ?_
  have called := spoken₂.request (q := .call function (.object object) [])
    ⟨Value.speaks_object object, nofun⟩ nofun
  exact called.bind fun returned w₃ spoken₃ _ => .done spoken₃ trivial

theorem applyEntries (object : ObjectHandle) {entries : List LiteralEntry}
    (given : ∀ entry ∈ entries, vocabulary entry.key.text ∧ entry.toFields.Speaks vocabulary) :
    (ObjectLiteral.applyEntries object entries).Speaks vocabulary w fun _ => True := by
  induction entries generalizing w with
  | nil => exact .done spoken trivial
  | cons entry rest ih =>
    obtain ⟨⟨named, fields⟩, given⟩ := List.forall_mem_cons.1 given
    exact (spoken.define object _ named fields).bind fun _ w' spoken' _ => ih spoken' given

theorem build (literal : ObjectLiteral) (given : ∀ entry ∈ literal.entries,
      vocabulary entry.key.text ∧ entry.toFields.Speaks vocabulary) :
    literal.build.Speaks vocabulary w fun _ => True := by
  refine (spoken.request (q := .newObject) trivial nofun).bind fun object w₁ spoken₁ _ => ?_
  exact (spoken₁.applyEntries object given).bind fun _ w₂ spoken₂ _ => .done spoken₂ trivial

end SpokenWorld

end Programs

end ObjectModel
