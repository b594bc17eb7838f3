import ObjectModel.Proofs.OneLine
import ObjectModel.Proofs.SpokenWorld

/-!
# Details of failed steps

The detail of a failed step puts names, keys and strings of the scenario into a sentence as they
are.  A scenario has no other strings to put there, so the details of a scenario whose texts are one
line each are one line too (`Scenario.StopsAt.oneLine_detail`).  The steps are gone through once, in
`ScenarioStep.tells`.
-/

namespace ObjectModel

variable {α γ : Type}

/-! ## The texts of a scenario -/

def ScenarioValue.texts : ScenarioValue → List String
  | string text | object text => [text]
  | _ => []

def ScenarioDescriptor.texts (d : ScenarioDescriptor) : List String :=
  d.value.toList.flatMap ScenarioValue.texts ++ d.get.join.toList ++ d.set.join.toList

def ScenarioLiteralEntry.texts : ScenarioLiteralEntry → List String
  | data key value => key :: value.texts
  | getter key function | setter key function => [key, function]

def FunctionBehavior.texts : FunctionBehavior → List String
  | returnConstant value => value.texts
  | readCell cell _ | writeCell cell => [cell]

/-- The names, keys and strings of a step, without the keys that an enumeration is compared with,
which no detail shows unquoted. -/
def ScenarioStep.texts : ScenarioStep → List String
  | createObject name proto _ => name :: proto.toList
  | objectLiteral name entries => name :: entries.flatMap ScenarioLiteralEntry.texts
  | createFunction name behavior recordReceiver =>
    name :: (behavior.texts ++ recordReceiver.toList)
  | construct name function => [name, function]
  | bind name object key => [name, object, key]
  | setCell cell value | expectCell cell value => cell :: value.texts
  | setPrototype object proto => object :: proto.toList
  | define object key descriptor _ => object :: key :: descriptor.texts
  | put object key value receiver | expectValue object key value receiver =>
    object :: key :: (value.texts ++ receiver.toList)
  | delete object key _ => [object, key]
  | expectDescriptor object key descriptor =>
    object :: key :: descriptor.toList.flatMap ScenarioDescriptor.texts
  | expectKeys object _ => [object]
  | expectReceiver cell object => [cell, object]

/-- The texts of a scenario that its log entry can show as they are. -/
def Scenario.texts (s : Scenario) : List String := s.id :: s.steps.flatMap ScenarioStep.texts

/-! ## Looking names up -/

namespace StepFailure

def detail : StepFailure → String
  | mismatch detail | setup _ detail => detail

def HasOneLine (failure : StepFailure) : Prop := OneLine failure.detail

theorem unknownObject_hasOneLine {name : String} (named : OneLine name) :
    (unknownObject name).HasOneLine := by
  show OneLine ("unknown object `" ++ name ++ "`")
  rw [oneLine_append, oneLine_append]
  exact ⟨⟨by decide, named⟩, by decide⟩

theorem ofError_hasOneLine {e : ObjectError} (speaks : e.Speaks OneLine) : (ofError e).HasOneLine :=
  ObjectError.oneLine_message speaks

end StepFailure

/-- The look-up finds something as stated, or stops with a detail of one line. -/
abbrev Names.Settles (Holds : α → Prop) : Except StepFailure α → Prop :=
  Meets Holds StepFailure.HasOneLine

namespace Names

variable (names : Names)

theorem settles_object {name : String} (named : OneLine name) :
    Settles (fun _ => True) (names.object name) := by
  unfold object
  split
  · trivial
  · exact StepFailure.unknownObject_hasOneLine named

theorem settles_value {v : ScenarioValue} (texts : ∀ text ∈ v.texts, OneLine text) :
    Settles (Value.Speaks OneLine) (names.value v) := by
  cases v with
  | string s =>
    rintro _ ⟨⟩
    exact texts s List.mem_cons_self
  | object name =>
    exact (names.settles_object (texts name List.mem_cons_self)).bind fun h _ =>
      Value.speaks_object h
  | _ => exact nofun

theorem settles_option {Holds : γ → Prop} {f : α → Except StepFailure γ} {x : Option α}
    (each : ∀ a ∈ x.toList, Settles Holds (f a)) :
    Settles (fun y => ∀ b, y = some b → Holds b) (option f x) := by
  cases x with
  | none => exact nofun
  | some a =>
    refine (each a List.mem_cons_self).bind fun b holds => ?_
    rintro _ ⟨⟩
    exact holds

theorem settles_mapM {Holds : γ → Prop} {f : α → Except StepFailure γ} {xs : List α}
    (each : ∀ a ∈ xs, Settles Holds (f a)) :
    Settles (fun ys => ∀ b ∈ ys, Holds b) (xs.mapM f) := by
  induction xs with
  | nil => exact nofun
  | cons a rest ih =>
    obtain ⟨first, each⟩ := List.forall_mem_cons.1 each
    rw [List.mapM_cons]
    refine first.bind fun b holds => (ih each).bind fun bs others => ?_
    exact List.forall_mem_cons.2 ⟨holds, others⟩

theorem settles_fields {d : ScenarioDescriptor} (texts : ∀ text ∈ d.texts, OneLine text) :
    Settles (DescriptorFields.Speaks OneLine) (names.fields d) := by
  simp only [ScenarioDescriptor.texts, List.forall_mem_append, List.forall_mem_flatMap] at texts
  obtain ⟨⟨value, getter⟩, setter⟩ := texts
  -- of the functions only the names matter, as the literal holds them as handles
  have function : ∀ {f : Option (Option String)}, (∀ text ∈ f.join.toList, OneLine text) →
      Settles (fun y => ∀ g, y = some g → ∀ h, g = some h → True)
        (option (option names.object) f) := fun named =>
    settles_option fun g held => settles_option fun name inner =>
      names.settles_object (named name (by simp_all))
  refine (settles_option fun v held => names.settles_value (value v held)).bind fun v speaks => ?_
  exact (function getter).bind fun _ _ => (function setter).bind fun _ _ => speaks

theorem settles_receiver (object : ObjectHandle) {name : Option String}
    (texts : ∀ text ∈ name.toList, OneLine text) :
    Settles (Value.Speaks OneLine) (names.receiver object name) := by
  cases name with
  | none => exact Value.speaks_object object
  | some name =>
    exact (names.settles_object (texts name List.mem_cons_self)).bind fun h _ =>
      Value.speaks_object h

theorem settles_literalEntry {entry : ScenarioLiteralEntry}
    (texts : ∀ text ∈ entry.texts, OneLine text) :
    Settles (fun entry : LiteralEntry => OneLine entry.key.text ∧ entry.toFields.Speaks OneLine)
      (names.literalEntry entry) := by
  cases entry with
  | data key value =>
    obtain ⟨named, texts⟩ := List.forall_mem_cons.1 texts
    refine (names.settles_value texts).bind fun v speaks => ⟨named, ?_⟩
    rintro _ ⟨⟩
    exact speaks
  | getter key function | setter key function =>
    obtain ⟨named, texts⟩ := List.forall_mem_cons.1 texts
    exact (names.settles_object (texts function List.mem_cons_self)).bind fun f _ => ⟨named, nofun⟩

theorem settles_action {behavior : FunctionBehavior}
    (texts : ∀ text ∈ behavior.texts, OneLine text) :
    Settles (fun action => ∀ v, action = .returnConstant v → v.Speaks OneLine)
      (names.action behavior) := by
  cases behavior with
  | returnConstant value =>
    refine (names.settles_value texts).bind fun v speaks => ?_
    rintro _ ⟨⟩
    exact speaks
  | readCell | writeCell => exact nofun

end Names

/-! ## Parts of steps -/

namespace StepProgram

/-- The part of a step comes by worlds whose strings are one line each, and ends with a value as
stated or with a detail of one line. -/
def Tells (p : StepProgram α) (w : World ScenarioFunction Cells) (Holds : α → Prop) : Prop :=
  Program.Speaks OneLine p.run w (Names.Settles Holds)

namespace Tells

variable {w : World ScenarioFunction Cells} (spoken : SpokenWorld OneLine w) {Mid : α → Prop}
  {Holds : γ → Prop}

theorem bind {p : StepProgram α} {f : α → StepProgram γ} (first : Tells p w Mid)
    (rest : ∀ a w', SpokenWorld OneLine w' → Mid a → Tells (f a) w' Holds) :
    Tells (p >>= f) w Holds := by
  refine Program.Speaks.bind first fun result w' spoken' settles => ?_
  cases result with
  | ok a => exact rest a w' spoken' settles
  | error failure => exact .done spoken' settles

theorem act {p : ScenarioProgram α} (first : Program.Speaks OneLine p w Mid) :
    Tells (StepProgram.act p) w Mid :=
  Program.Speaks.bind first fun _ _ spoken' holds => .done spoken' holds

include spoken

theorem pure {a : α} (holds : Mid a) : Tells (pure a) w Mid :=
  .done spoken holds

theorem mismatch {detail : String} (shown : OneLine detail) :
    Tells (StepProgram.mismatch detail) w Mid :=
  .done spoken shown

theorem expect {condition : Bool} {detail : String} (shown : OneLine detail) :
    Tells (StepProgram.expect condition detail) w fun _ => True := by
  cases condition with
  | true => exact pure spoken trivial
  | false => exact mismatch spoken shown

theorem bind_lookUp {e : Except StepFailure α} {f : α → StepProgram γ}
    (settles : Names.Settles Mid e) (rest : ∀ a, Mid a → Tells (f a) w Holds) :
    Tells (lookUp e >>= f) w Holds := by
  cases e with
  | ok a => exact rest a settles
  | error failure => exact .done spoken settles

omit spoken

/-- The error of an attempted program is a value, and speaks like it. -/
theorem attempt {p : ScenarioProgram α} (first : Program.Speaks OneLine p w Mid) :
    Tells (StepProgram.attempt p) w (Meets Mid (ObjectError.Speaks OneLine)) := by
  apply act
  have mapped : Program.Speaks OneLine (Except.ok <$> p : ScenarioProgram (Except ObjectError α)) w
      (Meets Mid (ObjectError.Speaks OneLine)) :=
    Program.Speaks.bind first fun _ _ spoken' holds => .done spoken' holds
  exact Program.Upholds.orElse mapped (fun _ _ meets => meets)
    fun e w' _ spoken' speaks => .done spoken' speaks

/-- The step leaves the names as they are. -/
theorem unchanged {p : StepProgram α} (first : Tells p w Mid) (names : Names) :
    Tells (p >>= fun _ => Pure.pure names) w fun _ => True :=
  first.bind fun _ _ spoken' _ => pure spoken' trivial

/-- The step names an object. -/
theorem naming {p : StepProgram ObjectHandle} (first : Tells p w fun _ => True) (names : Names)
    (name : String) :
    Tells (p >>= fun h => Pure.pure (OrderedMap.insert names name h)) w fun _ => True :=
  first.bind fun _ _ spoken' _ => pure spoken' trivial

end Tells

end StepProgram

/-! ## Whole steps -/

namespace ScenarioStep

open StepProgram

theorem oneLine_path {object key : String} (named : OneLine object) (named' : OneLine key) :
    OneLine (path object key) := by
  simp [path, named, named']
  decide

variable {w : World ScenarioFunction Cells} (spoken : SpokenWorld OneLine w)

include spoken

theorem checkDefine_tells {key : String} (named : OneLine key) (expected : Option DefineErrorKind)
    {result : Except ObjectError DefineOutcome}
    (meets : Meets (fun _ => True) (ObjectError.Speaks OneLine) result) :
    Tells (checkDefine key expected result) w fun _ => True := by
  cases result with
  | error e =>
    refine .expect spoken ?_
    have message : OneLine e.message := ObjectError.oneLine_message meets
    simp [named, message]
    decide
  | ok outcome =>
    cases expected with
    | none => exact .pure spoken trivial
    | some kind =>
      refine .mismatch spoken ?_
      simp [named]
      decide

theorem checkDescriptor_tells (names : Names) {place : String} (named : OneLine place)
    {descriptor : Option ScenarioDescriptor}
    (texts : ∀ d ∈ descriptor.toList, ∀ text ∈ d.texts, OneLine text)
    (actual : Option PropertyDescriptor) :
    Tells (checkDescriptor names place descriptor actual) w fun _ => True := by
  cases descriptor with
  | none =>
    cases actual with
    | none => exact .pure spoken trivial
    | some actual =>
      refine .mismatch spoken ?_
      simp [named]
      decide
  | some descriptor =>
    cases actual with
    | none =>
      refine .mismatch spoken ?_
      simp [named]
      decide
    | some actual =>
      have settles := names.settles_fields (texts descriptor List.mem_cons_self)
      refine .bind_lookUp spoken settles fun expected _ => .expect spoken ?_
      simp [named]
      decide

/-- A step whose texts are one line each keeps the strings of its world so, and stops with a detail
of one line if it stops. -/
theorem tells (names : Names) (step : ScenarioStep) (texts : ∀ text ∈ step.texts, OneLine text) :
    Tells (step.execute names) w fun _ => True := by
  cases step with
  | createObject name proto nullPrototype =>
    have created : ∀ {w}, SpokenWorld OneLine w → ∀ p,
        Tells (act (Program.createObject p)) w fun _ => True :=
      fun spoken p => .act (spoken.request (q := .createObject p) trivial nofun)
    cases nullPrototype with
    | true => exact (created spoken none).naming names name
    | false =>
      cases proto with
      | none =>
        have new := spoken.request (q := .newObject) trivial nofun
        exact (Tells.act new).naming names name
      | some proto =>
        have named : OneLine proto := texts proto (List.mem_cons_of_mem _ List.mem_cons_self)
        refine .bind_lookUp spoken (names.settles_object named) fun p _ => ?_
        exact (created spoken (some p)).naming names name
  | objectLiteral name entries =>
    simp only [ScenarioStep.texts, List.forall_mem_cons, List.forall_mem_flatMap] at texts
    have settles := Names.settles_mapM fun entry member =>
      names.settles_literalEntry (texts.2 entry member)
    refine .bind_lookUp spoken settles fun entries given => ?_
    exact (Tells.act (spoken.build ⟨entries⟩ given)).naming names name
  | createFunction name behavior recordReceiver =>
    simp only [ScenarioStep.texts, List.forall_mem_cons, List.forall_mem_append] at texts
    refine .bind_lookUp spoken (names.settles_action texts.2.1) fun action constant => ?_
    have created := spoken.request (q := .createFunction name ⟨action, recordReceiver⟩) trivial
      constant
    exact (Tells.act created).naming names name
  | construct name function =>
    simp only [ScenarioStep.texts, List.forall_mem_cons] at texts
    refine .bind_lookUp spoken (names.settles_object texts.2.1) fun f _ => ?_
    exact (Tells.act (spoken.construct f)).naming names name
  | bind name object key =>
    simp only [ScenarioStep.texts, List.forall_mem_cons] at texts
    obtain ⟨-, objectNamed, named, -⟩ := texts
    refine .bind_lookUp spoken (names.settles_object objectNamed) fun o _ => ?_
    refine (Tells.act (spoken.get o ⟨key⟩ (Value.speaks_object o))).bind
      fun (value : Value) w₁ spoken₁ speaks => ?_
    have shown : OneLine ("`" ++ key ++ "` holds " ++ value.toText ++ ", not an object") := by
      simp [named, Value.oneLine_toText speaks]
      decide
    cases value with
    | object handle => exact .pure spoken₁ trivial
    | _ => exact .done spoken₁ shown
  | setCell cell value =>
    simp only [ScenarioStep.texts, List.forall_mem_cons] at texts
    refine .bind_lookUp spoken (names.settles_value texts.2) fun v speaks => ?_
    exact (Tells.act (spoken.modifyHost cell speaks)).unchanged names
  | setPrototype object proto =>
    simp only [ScenarioStep.texts, List.forall_mem_cons] at texts
    refine .bind_lookUp spoken (names.settles_object texts.1) fun o _ => ?_
    have settles := Names.settles_option fun p held => names.settles_object (texts.2 p held)
    refine .bind_lookUp spoken settles fun p _ => ?_
    exact (Tells.act (spoken.request (q := .setPrototype o p) trivial nofun)).unchanged names
  | define object key descriptor expectError =>
    simp only [ScenarioStep.texts, List.forall_mem_cons] at texts
    obtain ⟨objectNamed, named, texts⟩ := texts
    refine .bind_lookUp spoken (names.settles_object objectNamed) fun o _ => ?_
    refine .bind_lookUp spoken (names.settles_fields texts) fun fields speaks => ?_
    refine (Tells.attempt (spoken.define o ⟨key⟩ named speaks)).bind
      fun result w₁ spoken₁ meets => ?_
    exact (checkDefine_tells spoken₁ named expectError meets).unchanged names
  | put object key value receiver =>
    simp only [ScenarioStep.texts, List.forall_mem_cons, List.forall_mem_append] at texts
    obtain ⟨objectNamed, -, value, receiver⟩ := texts
    refine .bind_lookUp spoken (names.settles_object objectNamed) fun o _ => ?_
    refine .bind_lookUp spoken (names.settles_receiver o receiver) fun this receives => ?_
    refine .bind_lookUp spoken (names.settles_value value) fun v speaks => ?_
    exact (Tells.act (spoken.request (q := .put o ⟨key⟩ v this) ⟨speaks, receives⟩ nofun)).unchanged
      names
  | delete object key expected =>
    simp only [ScenarioStep.texts, List.forall_mem_cons] at texts
    obtain ⟨objectNamed, named, -⟩ := texts
    refine .bind_lookUp spoken (names.settles_object objectNamed) fun o _ => ?_
    refine (Tells.act (spoken.request (q := .delete o ⟨key⟩) trivial nofun)).bind
      fun (deleted : Bool) w₁ spoken₁ _ => ?_
    refine (Tells.expect spoken₁ ?_).unchanged names
    simp [named]
    decide
  | expectValue object key value receiver =>
    simp only [ScenarioStep.texts, List.forall_mem_cons, List.forall_mem_append] at texts
    obtain ⟨objectNamed, named, value, receiver⟩ := texts
    refine .bind_lookUp spoken (names.settles_object objectNamed) fun o _ => ?_
    refine .bind_lookUp spoken (names.settles_receiver o receiver) fun this receives => ?_
    refine .bind_lookUp spoken (names.settles_value value) fun expected speaks => ?_
    refine (Tells.act (spoken.get o ⟨key⟩ receives)).bind fun actual w₁ spoken₁ read => ?_
    refine (Tells.expect spoken₁ ?_).unchanged names
    simp [oneLine_path objectNamed named, Value.oneLine_toText read, Value.oneLine_toText speaks]
    decide
  | expectDescriptor object key descriptor =>
    simp only [ScenarioStep.texts, List.forall_mem_cons, List.forall_mem_flatMap] at texts
    obtain ⟨objectNamed, named, texts⟩ := texts
    refine .bind_lookUp spoken (names.settles_object objectNamed) fun o _ => ?_
    refine (Tells.act (spoken.object o)).bind fun o w₁ spoken₁ _ => ?_
    exact (checkDescriptor_tells spoken₁ names (oneLine_path objectNamed named) texts _).unchanged
      names
  | expectKeys object keys =>
    simp only [ScenarioStep.texts, List.forall_mem_cons] at texts
    -- the keys are shown in quotes, so it does not matter which ones the object has
    refine .bind_lookUp spoken (names.settles_object texts.1) fun o _ => ?_
    refine (Tells.act (spoken.request (q := .enumerateKeys o) trivial nofun)).bind
      fun actual w₁ spoken₁ _ => ?_
    refine (Tells.expect spoken₁ ?_).unchanged names
    simp [texts.1]
    decide
  | expectCell cell value =>
    simp only [ScenarioStep.texts, List.forall_mem_cons] at texts
    obtain ⟨named, texts⟩ := texts
    refine .bind_lookUp spoken (names.settles_value texts) fun expected speaks => ?_
    refine (Tells.act spoken.hostState).bind fun cells w₁ spoken₁ read => ?_
    refine (Tells.expect spoken₁ ?_).unchanged names
    simp [named, Value.oneLine_toText (read cell), Value.oneLine_toText speaks]
    decide
  | expectReceiver cell object =>
    simp only [ScenarioStep.texts, List.forall_mem_cons] at texts
    obtain ⟨named, objectNamed, -⟩ := texts
    refine .bind_lookUp spoken (names.settles_object objectNamed) fun expected _ => ?_
    refine (Tells.act spoken.hostState).bind fun cells w₁ spoken₁ read => ?_
    refine (Tells.expect spoken₁ ?_).unchanged names
    simp [named, objectNamed, Value.oneLine_toText (read cell)]
    decide

end ScenarioStep

/-! ## Whole scenarios -/

section Scenario

variable {s : Scenario} {config : RealmConfig} (texts : ∀ text ∈ s.texts, OneLine text)

include texts

theorem Scenario.oneLine_step {i : Nat} {step : ScenarioStep} (current : s.steps[i]? = some step) :
    ∀ text ∈ step.texts, OneLine text := fun text member =>
  texts text (List.mem_cons_of_mem _
    (List.mem_flatMap.2 ⟨step, List.mem_of_getElem? current, member⟩))

theorem Scenario.Begins.spoken {i : Nat} {names : Names} {w : World ScenarioFunction Cells}
    (begins : s.Begins config i names w) : SpokenWorld OneLine w := by
  induction begins with
  | first => exact ofConfig_spokenWorld config
  | @next i names w step names' w' begins current ends ih =>
    have tells := step.tells ih names (oneLine_step texts current)
    exact tells.always _ (Program.visitsWith_end _ ends)

/-- A scenario whose texts are one line each stops with a detail of one line. -/
theorem Scenario.StopsAt.oneLine_detail {i : Nat} {step : ScenarioStep} {failure : StepFailure}
    (stops : s.StopsAt config i step failure) : failure.HasOneLine := by
  cases stops with
  | @failed names w failure w' begins current ends =>
    have tells := step.tells (begins.spoken texts) names (oneLine_step texts current)
    exact tells.ends _ _ ends
  | @threw names w e w' begins current ends =>
    have tells := step.tells (begins.spoken texts) names (oneLine_step texts current)
    exact StepFailure.ofError_hasOneLine (tells.ends _ _ ends)

end Scenario

end ObjectModel
