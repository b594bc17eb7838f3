import ObjectModel.Proofs.ClosedWorld

/-!
# The steps of a scenario

Names enter a step through look-ups, which find existing objects or stop at an unknown name
(`Names.Finds`).  What they find is all that a step gives to the realm, so every step stays in
closed worlds and names existing objects only (`ScenarioStep.safe`).

The same lemma says how a step can stop its scenario.  An expectation that does not hold, an unknown
name and a property that holds no object are left to every step; calling something that is no
function is left to constructions and object initialisers.
-/

namespace ObjectModel

variable {α γ : Type}

/-! ## Looking names up -/

namespace Names

/-- All objects with names exist. -/
def LiveIn (names : Names) (r : Realm ScenarioFunction) : Prop :=
  ∀ name h, names.get? name = some h → r.heap.contains h = true

theorem LiveIn.mono {names : Names} {r s : Realm ScenarioFunction} (live : names.LiveIn r)
    (grows : r.Grows s) : names.LiveIn s :=
  fun name h named => grows h (live name h named)

theorem LiveIn.insert {names : Names} {r : Realm ScenarioFunction} (live : names.LiveIn r)
    (name : String) {h : ObjectHandle} (exists_ : r.heap.contains h = true) :
    LiveIn (OrderedMap.insert names name h) r := by
  intro other k named
  rw [OrderedMap.get?_insert] at named
  split at named
  · cases named
    exact exists_
  · exact live other k named

/-- The look-up finds something as stated, or stops at an unknown name. -/
inductive Finds (Holds : α → Prop) : Except StepFailure α → Prop where
  | found {a} (holds : Holds a) : Finds Holds (.ok a)
  | unknown (name : String) : Finds Holds (.error (.unknownObject name))

section Finds

variable {Holds : α → Prop} {Holds' : γ → Prop}

theorem Finds.bind {e : Except StepFailure α} {f : α → Except StepFailure γ}
    (first : Finds Holds e) (rest : ∀ a, Holds a → Finds Holds' (f a)) :
    Finds Holds' (e >>= f) := by
  cases first with
  | found holds => exact rest _ holds
  | unknown name => exact .unknown name

theorem finds_option {f : α → Except StepFailure γ} (each : ∀ a, Finds Holds' (f a))
    (x : Option α) : Finds (fun y => ∀ b, y = some b → Holds' b) (option f x) := by
  cases x with
  | none => exact .found nofun
  | some a =>
    refine (each a).bind fun b holds => .found ?_
    rintro _ ⟨⟩
    exact holds

theorem finds_mapM {f : α → Except StepFailure γ} (each : ∀ a, Finds Holds' (f a))
    (xs : List α) : Finds (fun ys => ∀ b ∈ ys, Holds' b) (xs.mapM f) := by
  induction xs with
  | nil => exact .found nofun
  | cons a rest ih =>
    rw [List.mapM_cons]
    refine (each a).bind fun b first => ih.bind fun bs others => .found ?_
    rintro c (_ | ⟨_, member⟩)
    · exact first
    · exact others c member

end Finds

section Live

variable {names : Names} {r : Realm ScenarioFunction} (live : names.LiveIn r)

include live

theorem finds_object (name : String) :
    Finds (fun h => r.heap.contains h = true) (names.object name) := by
  rw [object]
  cases named : names.get? name with
  | none => exact .unknown name
  | some h => exact .found (live name h named)

theorem finds_value (v : ScenarioValue) : Finds r.Knows (names.value v) := by
  cases v with
  | object name =>
    refine (finds_object live name).bind fun h exists_ => .found ?_
    exact Realm.knows_object exists_
  | _ => exact .found (Realm.knows_of_no_object rfl)

theorem finds_fields (d : ScenarioDescriptor) :
    Finds (fun fields => ∀ k, fields.refersTo k → r.heap.contains k = true) (names.fields d) := by
  refine (finds_option (finds_value live) d.value).bind fun value known => ?_
  refine (finds_option (finds_option (finds_object live)) d.get).bind fun get getLive => ?_
  refine (finds_option (finds_option (finds_object live)) d.set).bind fun set setLive => .found ?_
  rintro k (held | getter | setter)
  · exact known _ held k rfl
  · exact getLive _ getter k rfl
  · exact setLive _ setter k rfl

theorem finds_receiver {object : ObjectHandle} (exists_ : r.heap.contains object = true)
    (name : Option String) : Finds r.Knows (names.receiver object name) := by
  cases name with
  | none => exact .found (Realm.knows_object exists_)
  | some name =>
    refine (finds_object live name).bind fun h exists_ => .found ?_
    exact Realm.knows_object exists_

theorem finds_literalEntry (entry : ScenarioLiteralEntry) :
    Finds (fun entry : LiteralEntry => ∀ k, entry.toFields.refersTo k →
      r.heap.contains k = true) (names.literalEntry entry) := by
  cases entry with
  | data key value =>
    refine (finds_value live value).bind fun v known => .found ?_
    rintro k (held | ⟨⟨⟩⟩ | ⟨⟨⟩⟩)
    exact known k (Option.some.inj held)
  | getter key function =>
    refine (finds_object live function).bind fun f exists_ => .found ?_
    rintro k (⟨⟨⟩⟩ | ⟨⟨⟩⟩ | ⟨⟨⟩⟩)
    exact exists_
  | setter key function =>
    refine (finds_object live function).bind fun f exists_ => .found ?_
    rintro k (⟨⟨⟩⟩ | ⟨⟨⟩⟩ | ⟨⟨⟩⟩)
    exact exists_

theorem finds_action (behavior : FunctionBehavior) :
    Finds (fun action => ∀ v, action = .returnConstant v → r.Knows v) (names.action behavior) := by
  cases behavior with
  | returnConstant value =>
    refine (finds_value live value).bind fun v known => .found ?_
    rintro _ ⟨⟩
    exact known
  | readCell | writeCell => exact .found nofun

end Live

theorem ofIntrinsics_live {r : Realm ScenarioFunction} (intrinsics : r.IntrinsicsLive) :
    (ofIntrinsics r.intrinsics).LiveIn r := by
  have none : LiveIn .empty r := nofun
  have global := none.insert "global"
    (intrinsics r.intrinsics.global (by simp [Intrinsics.handles]))
  have math := global.insert "Math" (intrinsics r.intrinsics.math (by simp [Intrinsics.handles]))
  have object := math.insert "Object.prototype" intrinsics.objectPrototype
  have function := object.insert "Function.prototype" intrinsics.functionPrototype
  exact function.insert "Array.prototype"
    (intrinsics r.intrinsics.arrayPrototype (by simp [Intrinsics.handles]))

end Names

/-! ## Parts of steps -/

/-- What may stop a scenario at a step of the given name. -/
def StepFailure.AllowedIn (op : String) : StepFailure → Prop
  | .mismatch _ => True
  | .setup code _ => code = setupCode ∨
    code = "OM-CALL-0001" ∧ (op = "construct" ∨ op = "object_literal")

namespace StepProgram

/-- How a part of a step may end: with a value as stated, or stopping the scenario in a way that is
allowed. -/
inductive Ends (op : String) (Holds : α → Realm ScenarioFunction → Prop) :
    Except ObjectError (Except StepFailure α) → Realm ScenarioFunction → Prop where
  | value {a s} (holds : Holds a s) : Ends op Holds (.ok (.ok a)) s
  | failure {failure s} (allowed : failure.AllowedIn op) : Ends op Holds (.ok (.error failure)) s
  | error {e s} (allowed : (StepFailure.ofError e).AllowedIn op) : Ends op Holds (.error e) s

/-- The part of a step comes by closed worlds only and ends as it may. -/
def Safe (op : String) (p : StepProgram α) (w : World ScenarioFunction Cells)
    (Holds : α → Realm ScenarioFunction → Prop) : Prop :=
  StaysClosed p.run w (Ends op Holds)

namespace Safe

variable {op : String} {w : World ScenarioFunction Cells}
  {Mid : α → Realm ScenarioFunction → Prop} {Holds : γ → Realm ScenarioFunction → Prop}

theorem pure (closed : ClosedWorld w) {a : α} (holds : Mid a w.realm) :
    Safe op (pure a) w Mid :=
  .done closed (.value holds)

theorem mismatch (closed : ClosedWorld w) (detail : String) :
    Safe op (mismatch detail) w Mid :=
  .done closed (.failure trivial)

theorem expect (closed : ClosedWorld w) (condition : Bool) (detail : String) :
    Safe op (expect condition detail) w fun _ _ => True := by
  cases condition with
  | true => exact pure closed trivial
  | false => exact mismatch closed detail

theorem bind {p : StepProgram α} {f : α → StepProgram γ} (first : Safe op p w Mid)
    (rest : ∀ a w', w.realm.Grows w'.realm → ClosedWorld w' → Mid a w'.realm →
      Safe op (f a) w' Holds) : Safe op (p >>= f) w Holds := by
  refine StaysClosed.bind first (fun result w' grows closed ends => ?_) fun e s ends => ?_
  · cases ends with
    | value holds => exact rest _ w' grows closed holds
    | failure allowed => exact .done closed (.failure allowed)
  · cases ends with
    | error allowed => exact .error allowed

/-- A look-up leaves the world alone. -/
theorem bind_lookUp {Found : α → Prop} {e : Except StepFailure α} {f : α → StepProgram γ}
    (closed : ClosedWorld w) (finds : Names.Finds Found e)
    (rest : ∀ a, Found a → Safe op (f a) w Holds) : Safe op (lookUp e >>= f) w Holds := by
  cases finds with
  | found holds => exact rest _ holds
  | unknown name => exact .done closed (.failure (.inl rfl))

theorem act {p : ScenarioProgram α} {Post : Except ObjectError α → Realm ScenarioFunction → Prop}
    (first : StaysClosed p w Post) (value : ∀ a s, Post (.ok a) s → Mid a s)
    (error : ∀ e s, Post (.error e) s → (StepFailure.ofError e).AllowedIn op) :
    Safe op (act p) w Mid :=
  StaysClosed.bind first (fun a w' _ closed post => .done closed (.value (value a w'.realm post)))
    fun e s post => .error (error e s post)

theorem act_ok {p : ScenarioProgram α} (first : StaysClosed p w (Realm.Yields Mid)) :
    Safe op (StepProgram.act p) w Mid := by
  refine act first (fun a s post => ?_) fun e s post => ?_
  · obtain ⟨_, ⟨⟩, holds⟩ := post
    exact holds
  · obtain ⟨_, ⟨⟩, _⟩ := post

/-- What can fail for calling no function is left to some steps alone. -/
theorem act_calling {p : ScenarioProgram α} (calling : op = "construct" ∨ op = "object_literal")
    (first : StaysClosed p w fun result s => Realm.Yields Mid result s ∨
      ∃ f, result = .error (.notCallable f)) : Safe op (StepProgram.act p) w Mid := by
  refine act first (fun a s post => ?_) fun e s post => ?_
  · obtain ⟨_, ⟨⟩, holds⟩ | ⟨_, ⟨⟩⟩ := post
    exact holds
  · obtain ⟨_, ⟨⟩, _⟩ | ⟨f, ⟨⟩⟩ := post
    exact .inr ⟨rfl, calling⟩

/-- An error of an attempted program stops nothing. -/
theorem attempt {p : ScenarioProgram α} (first : StaysClosed p w fun _ _ => True) :
    Safe op (attempt p) w fun _ _ => True := by
  have mapped : StaysClosed (Except.ok <$> p : ScenarioProgram (Except ObjectError α)) w
      fun _ _ => True :=
    first.bind (fun a w' _ closed _ => .done closed trivial) fun _ _ _ => trivial
  apply act_ok
  refine Program.Upholds.orElse mapped (fun result w' _ => ⟨result, rfl, trivial⟩) ?_
  exact fun e w' _ closed _ => .done closed ⟨.error e, rfl, trivial⟩

section Names

variable {names : Names} (live : names.LiveIn w.realm)

include live

/-- A step that names an object. -/
theorem naming {p : StepProgram ObjectHandle}
    (first : Safe op p w fun h s => s.heap.contains h = true) (name : String) :
    Safe op (p >>= fun h => Pure.pure (OrderedMap.insert names name h)) w Names.LiveIn :=
  first.bind fun _ _ grows closed exists_ =>
    pure closed ((live.mono grows).insert name exists_)

theorem unchanged {p : StepProgram α} (first : Safe op p w Mid) :
    Safe op (p >>= fun _ => Pure.pure names) w Names.LiveIn :=
  first.bind fun _ _ grows closed _ => pure closed (live.mono grows)

end Names

end Safe

end StepProgram

/-! ## Whole steps -/

namespace ScenarioStep

open StepProgram

variable {w : World ScenarioFunction Cells} (closed : ClosedWorld w)

include closed

theorem checkDefine_safe (op key : String) (expected : Option DefineErrorKind)
    (result : Except ObjectError DefineOutcome) :
    Safe op (checkDefine key expected result) w fun _ _ => True := by
  cases result with
  | error e => exact .expect closed _ _
  | ok outcome =>
    cases expected with
    | none => exact .pure closed trivial
    | some kind => exact .mismatch closed _

theorem checkDescriptor_safe (op : String) {names : Names} (live : names.LiveIn w.realm)
    (place : String) (descriptor : Option ScenarioDescriptor)
    (actual : Option PropertyDescriptor) :
    Safe op (checkDescriptor names place descriptor actual) w fun _ _ => True := by
  cases descriptor with
  | none =>
    cases actual with
    | none => exact .pure closed trivial
    | some actual => exact .mismatch closed _
  | some descriptor =>
    cases actual with
    | none => exact .mismatch closed _
    | some actual =>
      refine .bind_lookUp closed (Names.finds_fields live descriptor) fun expected _ => ?_
      exact .expect closed _ _

/-- A step keeps the world of its scenario closed and its names those of existing objects. -/
theorem safe {names : Names} (live : names.LiveIn w.realm) (step : ScenarioStep) :
    Safe step.op (step.execute names) w Names.LiveIn := by
  cases step with
  | createObject name proto nullPrototype =>
    cases nullPrototype with
    | true => exact (Safe.act_ok (closed.createObject none nofun)).naming live name
    | false =>
      cases proto with
      | none => exact (Safe.act_ok closed.newObject).naming live name
      | some proto =>
        refine .bind_lookUp closed (Names.finds_object live proto) fun p exists_ => ?_
        have created := closed.createObject (some p) (by rintro _ ⟨⟩; exact exists_)
        exact (Safe.act_ok created).naming live name
  | objectLiteral name entries =>
    refine .bind_lookUp closed (Names.finds_mapM (Names.finds_literalEntry live) entries)
      fun entries known => ?_
    have built := closed.build ⟨entries⟩ known
    exact (Safe.act_calling (.inr rfl) built).naming live name
  | createFunction name behavior recordReceiver =>
    refine .bind_lookUp closed (Names.finds_action live behavior) fun action constant => ?_
    exact (Safe.act_ok (closed.createFunction name constant)).naming live name
  | construct name function =>
    refine .bind_lookUp closed (Names.finds_object live function) fun f exists_ => ?_
    have constructed := closed.construct exists_
    exact (Safe.act_calling (.inl rfl) (constructed.weaken fun _ _ _ ends =>
      ends.imp_right fun refused => ⟨f, refused⟩)).naming live name
  | bind name object key =>
    refine .bind_lookUp closed (Names.finds_object live object) fun o exists_ => ?_
    have read := closed.get exists_ ⟨key⟩ (Realm.knows_object exists_)
    refine (Safe.act_ok read).bind fun value w₁ grows₁ closed₁ known => ?_
    cases value with
    | object handle => exact .pure closed₁ ((live.mono grows₁).insert name (known handle rfl))
    | _ => exact .done closed₁ (.failure (.inl rfl))
  | setCell cell value =>
    refine .bind_lookUp closed (Names.finds_value live value) fun v known => ?_
    exact (Safe.act_ok (closed.modifyHost known)).unchanged live
  | setPrototype object proto =>
    refine .bind_lookUp closed (Names.finds_object live object) fun o exists_ => ?_
    refine .bind_lookUp closed (Names.finds_option (Names.finds_object live) proto)
      fun p protoExists => ?_
    exact (Safe.act_ok (closed.setPrototype exists_ protoExists)).unchanged live
  | define object key descriptor expectError =>
    refine .bind_lookUp closed (Names.finds_object live object) fun o exists_ => ?_
    refine .bind_lookUp closed (Names.finds_fields live descriptor) fun fields known => ?_
    refine (Safe.attempt (closed.define o ⟨key⟩ known)).bind fun result w₁ grows₁ closed₁ _ => ?_
    exact (checkDefine_safe closed₁ _ key expectError result).unchanged (live.mono grows₁)
  | put object key value receiver =>
    refine .bind_lookUp closed (Names.finds_object live object) fun o exists_ => ?_
    refine .bind_lookUp closed (Names.finds_receiver live exists_ receiver) fun this receives => ?_
    refine .bind_lookUp closed (Names.finds_value live value) fun v known => ?_
    exact (Safe.act_ok (closed.put exists_ ⟨key⟩ known receives)).unchanged live
  | delete object key expected =>
    refine .bind_lookUp closed (Names.finds_object live object) fun o exists_ => ?_
    refine (Safe.act_ok (closed.delete exists_ ⟨key⟩)).bind fun deleted w₁ grows₁ closed₁ _ => ?_
    exact (Safe.expect closed₁ _ _).unchanged (live.mono grows₁)
  | expectValue object key value receiver =>
    refine .bind_lookUp closed (Names.finds_object live object) fun o exists_ => ?_
    refine .bind_lookUp closed (Names.finds_receiver live exists_ receiver) fun this receives => ?_
    refine .bind_lookUp closed (Names.finds_value live value) fun expected _ => ?_
    refine (Safe.act_ok (closed.get exists_ ⟨key⟩ receives)).bind
      fun actual w₁ grows₁ closed₁ _ => ?_
    exact (Safe.expect closed₁ _ _).unchanged (live.mono grows₁)
  | expectDescriptor object key descriptor =>
    refine .bind_lookUp closed (Names.finds_object live object) fun o exists_ => ?_
    refine (Safe.act_ok (closed.object exists_)).bind fun o w₁ grows₁ closed₁ _ => ?_
    have live₁ := live.mono grows₁
    exact (checkDescriptor_safe closed₁ _ live₁ _ descriptor _).unchanged live₁
  | expectKeys object keys =>
    refine .bind_lookUp closed (Names.finds_object live object) fun o exists_ => ?_
    refine (Safe.act_ok (closed.enumerateKeys exists_)).bind fun actual w₁ grows₁ closed₁ _ => ?_
    exact (Safe.expect closed₁ _ _).unchanged (live.mono grows₁)
  | expectCell cell value =>
    refine .bind_lookUp closed (Names.finds_value live value) fun expected _ => ?_
    refine (Safe.act_ok closed.hostState).bind fun cells w₁ grows₁ closed₁ _ => ?_
    exact (Safe.expect closed₁ _ _).unchanged (live.mono grows₁)
  | expectReceiver cell object =>
    refine .bind_lookUp closed (Names.finds_object live object) fun expected _ => ?_
    refine (Safe.act_ok closed.hostState).bind fun cells w₁ grows₁ closed₁ _ => ?_
    exact (Safe.expect closed₁ _ _).unchanged (live.mono grows₁)

end ScenarioStep

end ObjectModel
