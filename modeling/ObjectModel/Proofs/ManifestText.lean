import ObjectModel.Proofs.Decoding
import ObjectModel.Scenario.Manifest

/-!
# The canonical text of a manifest

The canonical text of an accepted manifest is accepted and read as the same manifest, so that text,
and with it the digest, stands for one manifest only.  Texts and structure are read back whatever
they are.  A number is read back if its numeral is read as it; all numbers of an accepted manifest
are finite, so each has a numeral.
-/

namespace ObjectModel

/-! ## The numbers of a manifest -/

def ScenarioValue.numbers : ScenarioValue → List Double
  | number x => [x]
  | _ => []

def ScenarioDescriptor.numbers (d : ScenarioDescriptor) : List Double :=
  d.value.toList.flatMap ScenarioValue.numbers

def FunctionBehavior.numbers : FunctionBehavior → List Double
  | returnConstant value => value.numbers
  | readCell _ plus => plus.toList
  | writeCell _ => []

def ScenarioLiteralEntry.numbers : ScenarioLiteralEntry → List Double
  | data _ value => value.numbers
  | getter .. | setter .. => []

def ScenarioStep.numbers : ScenarioStep → List Double
  | objectLiteral _ entries => entries.flatMap ScenarioLiteralEntry.numbers
  | createFunction _ behavior _ => behavior.numbers
  | setCell _ value | expectCell _ value => value.numbers
  | put _ _ value _ | expectValue _ _ value _ => value.numbers
  | define _ _ descriptor _ => descriptor.numbers
  | expectDescriptor _ _ descriptor => descriptor.toList.flatMap ScenarioDescriptor.numbers
  | createObject .. | construct .. | bind .. | setPrototype .. | delete .. | expectKeys ..
  | expectReceiver .. => []

def Scenario.numbers (s : Scenario) : List Double := s.steps.flatMap ScenarioStep.numbers

def ScenarioManifest.numbers (m : ScenarioManifest) : List Double :=
  m.scenarios.flatMap Scenario.numbers

/-- All of the numbers are finite. -/
def AllFinite (numbers : List Double) : Prop := ∀ x ∈ numbers, x.isFinite = true

/-- Each number is what its numeral is read as. -/
def ReadBack (numbers : List Double) : Prop := ∀ x ∈ numbers, x.readBack? = some x

theorem forall_mem_flatMap {α β : Type} {f : α → List β} {as : List α} {P : β → Prop} :
    (∀ b ∈ as.flatMap f, P b) ↔ ∀ a ∈ as, ∀ b ∈ f a, P b := by
  simp only [List.mem_flatMap]
  exact ⟨fun all a member b held => all b ⟨a, member, held⟩,
    fun all b ⟨a, member, held⟩ => all a member b held⟩

/-! ## Accepted numbers -/

theorem ScenarioValue.decode_yields :
    Json.Decoder.Yields decode fun v => AllFinite v.numbers := by
  intro p j v read
  obtain ⟨⟨name, content⟩, -, read⟩ := Option.bind_eq_some_iff.1 read
  dsimp only at read
  split at read <;>
    simp only [Option.bind_eq_bind, Option.bind_eq_some_iff, Option.map_eq_map,
      Option.map_eq_some_iff, Option.ite_none_right_eq_some, Option.some.injEq,
      reduceCtorEq] at read
  case h_1 | h_2 | h_3 | h_4 =>
    obtain ⟨-, rfl⟩ := read
    exact nofun
  case h_5 | h_7 | h_8 =>
    obtain ⟨_, -, _, -, rfl⟩ := read
    exact nofun
  case h_6 =>
    obtain ⟨_, -, x, found, rfl⟩ := read
    exact List.forall_mem_singleton.2 (Json.toDouble?_yields _ _ x found)

theorem ScenarioDescriptor.decode_yields :
    Json.Decoder.Yields decode fun d => AllFinite d.numbers := by
  intro p j d read
  simp only [decode, Option.bind_eq_bind, Option.bind_eq_some_iff, Option.pure_def,
    Option.some.injEq] at read
  obtain ⟨r, -, value, found, -, -, -, -, -, -, -, -, -, -, rfl⟩ := read
  exact forall_mem_flatMap.2 fun v there =>
    Json.optional_yields ScenarioValue.decode_yields found v (Option.mem_toList.1 there)

theorem FunctionBehavior.decode_yields :
    Json.Decoder.Yields decode fun b => AllFinite b.numbers := by
  intro p j b read
  obtain ⟨⟨kind, q, fields⟩, -, read⟩ := Option.bind_eq_some_iff.1 read
  dsimp only at read
  split at read <;>
    simp only [Option.bind_eq_bind, Option.bind_eq_some_iff, Option.pure_def,
      Option.some.injEq] at read
  · obtain ⟨r, -, value, found, rfl⟩ := read
    exact Json.required_yields ScenarioValue.decode_yields found
  · obtain ⟨r, -, cell, -, plus, found, rfl⟩ := read
    intro x there
    exact Json.optional_yields Json.toDouble?_yields found x (Option.mem_toList.1 there)
  · obtain ⟨r, -, cell, -, rfl⟩ := read
    exact nofun

theorem ScenarioLiteralEntry.decode_yields :
    Json.Decoder.Yields decode fun e => AllFinite e.numbers := by
  intro p j e read
  obtain ⟨⟨kind, q, fields⟩, -, read⟩ := Option.bind_eq_some_iff.1 read
  dsimp only at read
  split at read <;>
    simp only [Option.bind_eq_bind, Option.bind_eq_some_iff, Option.pure_def,
      Option.some.injEq] at read
  · obtain ⟨r, -, key, -, value, found, rfl⟩ := read
    exact Json.required_yields ScenarioValue.decode_yields found
  · obtain ⟨r, -, key, -, function, -, rfl⟩ := read
    exact nofun
  · obtain ⟨r, -, key, -, function, -, rfl⟩ := read
    exact nofun

theorem ScenarioStep.decode_yields :
    Json.Decoder.Yields decode fun step => AllFinite step.numbers := by
  intro p j step read
  obtain ⟨⟨op, q, fields⟩, -, read⟩ := Option.bind_eq_some_iff.1 read
  dsimp only at read
  split at read <;>
    simp only [Option.bind_eq_bind, Option.bind_eq_some_iff, Option.pure_def,
      Option.some.injEq] at read
  -- steps without a value
  case h_1 | h_5 | h_10 =>
    obtain ⟨_, -, _, -, _, -, _, -, rfl⟩ := read
    exact nofun
  case h_4 | h_7 | h_13 | h_15 =>
    obtain ⟨_, -, _, -, _, -, rfl⟩ := read
    exact nofun
  case h_2 =>
    obtain ⟨_, -, name, -, entries, found, rfl⟩ := read
    exact forall_mem_flatMap.2
      (Json.required_yields (Json.toList?_yields ScenarioLiteralEntry.decode_yields) found)
  case h_3 =>
    obtain ⟨_, -, name, -, behavior, found, _, -, rfl⟩ := read
    exact Json.required_yields FunctionBehavior.decode_yields found
  case h_6 | h_14 =>
    obtain ⟨_, -, cell, -, value, found, rfl⟩ := read
    exact Json.required_yields ScenarioValue.decode_yields found
  case h_8 =>
    obtain ⟨_, -, object, -, key, -, descriptor, found, _, -, rfl⟩ := read
    exact Json.required_yields ScenarioDescriptor.decode_yields found
  case h_9 | h_11 =>
    obtain ⟨_, -, object, -, key, -, value, found, _, -, rfl⟩ := read
    exact Json.required_yields ScenarioValue.decode_yields found
  case h_12 =>
    obtain ⟨_, -, object, -, key, -, descriptor, found, rfl⟩ := read
    exact forall_mem_flatMap.2 fun d there =>
      Json.optional_yields ScenarioDescriptor.decode_yields found d (Option.mem_toList.1 there)

theorem Scenario.decode_yields :
    Json.Decoder.Yields decode fun s => AllFinite s.numbers := by
  intro p j s read
  simp only [decode, Option.bind_eq_bind, Option.bind_eq_some_iff, Option.pure_def,
    Option.some.injEq] at read
  obtain ⟨_, -, id, -, description, -, steps, found, rfl⟩ := read
  exact forall_mem_flatMap.2
    (Json.required_yields (Json.toList?_yields ScenarioStep.decode_yields) found)

theorem ScenarioManifest.decode_yields :
    Json.Decoder.Yields decode fun m => AllFinite m.numbers := by
  intro p j m read
  simp only [decode, Option.bind_eq_bind, Option.bind_eq_some_iff, Option.pure_def,
    Option.some.injEq] at read
  obtain ⟨_, -, version, -, scenarios, found, rfl⟩ := read
  exact forall_mem_flatMap.2
    (Json.required_yields (Json.toList?_yields Scenario.decode_yields) found)

/-! ## Well-formed texts -/

theorem ScenarioValue.toJson_wellFormed (v : ScenarioValue) : v.toJson.WellFormed := by
  cases v with
  | undefined | null | nan | infinity => exact .string _
  | bool | number | string | object =>
    apply Json.wellFormed_record
    simp

theorem ScenarioDescriptor.toJson_wellFormed (d : ScenarioDescriptor) : d.toJson.WellFormed := by
  apply Json.wellFormed_record
  simp only [List.forall_mem_append, Json.wellFormed_member]
  have text := Json.wellFormed_ofOption Json.wellFormed_ofString
  simp [ScenarioValue.toJson_wellFormed, text]

theorem FunctionBehavior.toJson_wellFormed (b : FunctionBehavior) : b.toJson.WellFormed := by
  cases b <;> apply Json.wellFormed_record <;>
    simp [ScenarioValue.toJson_wellFormed, Json.wellFormed_ofOption Json.wellFormed_ofDouble]

theorem ScenarioLiteralEntry.toJson_wellFormed (e : ScenarioLiteralEntry) :
    e.toJson.WellFormed := by
  cases e <;> apply Json.wellFormed_record <;> simp [ScenarioValue.toJson_wellFormed]

theorem DefineErrorKind.toJson_wellFormed (kind : DefineErrorKind) : kind.toJson.WellFormed :=
  .string _

theorem ScenarioStep.toJson_wellFormed (step : ScenarioStep) : step.toJson.WellFormed := by
  have text := Json.wellFormed_ofOption Json.wellFormed_ofString
  have error := Json.wellFormed_ofOption DefineErrorKind.toJson_wellFormed
  have texts := Json.wellFormed_ofList Json.wellFormed_ofString
  have entries := Json.wellFormed_ofList ScenarioLiteralEntry.toJson_wellFormed
  have descriptor := Json.wellFormed_ofOption ScenarioDescriptor.toJson_wellFormed
  apply Json.wellFormed_record
  cases step <;>
    simp [fieldsToJson, text, texts, error, entries, descriptor, ScenarioValue.toJson_wellFormed,
      ScenarioDescriptor.toJson_wellFormed, FunctionBehavior.toJson_wellFormed]

theorem Scenario.toJson_wellFormed (s : Scenario) : s.toJson.WellFormed := by
  apply Json.wellFormed_record
  simp [Json.wellFormed_ofList ScenarioStep.toJson_wellFormed]

theorem ScenarioManifest.toJson_wellFormed (m : ScenarioManifest) : m.toJson.WellFormed := by
  apply Json.wellFormed_record
  simp [Json.wellFormed_ofList Scenario.toJson_wellFormed]

/-! ## Values -/

theorem ScenarioValue.decode_toJson {v : ScenarioValue} (same : ReadBack v.numbers)
    (p : Json.Place) : v.toJson ≠ .null ∧ decode p v.toJson = some v := by
  cases v with
  | undefined | null | nan | infinity | bool | string | object => exact ⟨nofun, rfl⟩
  | number x =>
    refine ⟨nofun, ?_⟩
    show (Json.toDouble? p.inner (.ofDouble x)).map number = _
    rw [Json.toDouble?_ofDouble, same x (List.mem_singleton_self x)]
    rfl

theorem ScenarioValue.isHoldable_toJson {v : ScenarioValue} (same : ReadBack v.numbers)
    {depth : Nat} (shallow : depth < Json.depthLimit) : Json.isHoldable depth v.toJson = true := by
  cases v with
  | undefined | null | nan | infinity => rfl
  | bool | string | object => simp [toJson, shallow]
  | number x =>
    simp [toJson, shallow, Json.isHoldable_ofDouble (same x (List.mem_singleton_self x))]

theorem ScenarioDescriptor.decode_toJson {d : ScenarioDescriptor} (same : ReadBack d.numbers)
    (p : Json.Place) : d.toJson ≠ .null ∧ decode p d.toJson = some d := by
  refine ⟨nofun, ?_⟩
  obtain ⟨value, writable, get, set, enumerable, configurable⟩ := d
  have valueRead : ∀ v ∈ value, v.toJson ≠ .null ∧ ScenarioValue.decode p.inner v.toJson = some v :=
    fun v there => ScenarioValue.decode_toJson
      (forall_mem_flatMap.1 same v (Option.mem_toList.2 there)) p.inner
  obtain ⟨fields, shown, valueAt, writableAt, getAt, setAt, enumerableAt, configurableAt⟩ :=
    Json.record?_literal true p ScenarioValue.toJson .ofString value writable get set enumerable
      configurable
  rw [decode, toJson, shown, Option.bind_eq_bind, Option.bind_some,
    Json.optional_member valueAt valueRead,
    Json.optional_member writableAt fun _ _ => ⟨nofun, rfl⟩,
    Json.tristate_member getAt fun _ => ⟨nofun, rfl⟩,
    Json.tristate_member setAt fun _ => ⟨nofun, rfl⟩,
    Json.optional_member enumerableAt fun _ _ => ⟨nofun, rfl⟩,
    Json.optional_member configurableAt fun _ _ => ⟨nofun, rfl⟩]
  rfl

theorem ScenarioDescriptor.isHoldable_toJson {d : ScenarioDescriptor} (same : ReadBack d.numbers)
    {depth : Nat} (shallow : depth + 1 < Json.depthLimit) :
    Json.isHoldable depth d.toJson = true := by
  have shallow' : depth < Json.depthLimit := by omega
  have valueHeld : ∀ v, d.value = some v → Json.isHoldable (depth + 1) v.toJson = true :=
    fun v there => ScenarioValue.isHoldable_toJson
      (forall_mem_flatMap.1 same v (Option.mem_toList.2 there)) shallow
  simpa [toJson, shallow', Option.all_eq_true] using valueHeld

namespace FunctionBehavior

theorem isHoldable_toJson {b : FunctionBehavior} (same : ReadBack b.numbers) {depth : Nat}
    (shallow : depth + 1 < Json.depthLimit) : Json.isHoldable depth b.toJson = true := by
  have shallow' : depth < Json.depthLimit := by omega
  cases b with
  | returnConstant value =>
    simp [toJson, shallow', ScenarioValue.isHoldable_toJson same shallow]
  | readCell cell plus =>
    have plusHeld : ∀ x, plus = some x → Json.isHoldable (depth + 1) (.ofDouble x) = true :=
      fun x there => Json.isHoldable_ofDouble (same x (Option.mem_toList.2 there)) _
    simpa [toJson, shallow', Option.all_eq_true] using plusHeld
  | writeCell cell => simp [toJson, shallow']

theorem decode_toJson {b : FunctionBehavior} (same : ReadBack b.numbers) {p : Json.Place}
    (shallow : p.depth + 1 < Json.depthLimit) : decode p b.toJson = some b := by
  have held := isHoldable_toJson same shallow
  cases b with
  | returnConstant value =>
    rw [decode, toJson, Json.tagged?_record rfl rfl held]
    show (ScenarioValue.decode p.hold.inner value.toJson).bind
      (fun v => some (returnConstant v)) = _
    rw [(ScenarioValue.decode_toJson same _).2]
    rfl
  | readCell cell plus =>
    have plusRead : ∀ x ∈ plus, Json.ofDouble x ≠ .null ∧
        Json.toDouble? p.hold.inner (.ofDouble x) = some x := by
      intro x there
      have read := same x (Option.mem_toList.2 there)
      refine ⟨?_, by rw [Json.toDouble?_ofDouble, read]⟩
      obtain ⟨n, written, -⟩ := Option.bind_eq_some_iff.1 read
      rw [Json.ofDouble, written]
      intro isNull
      cases isNull
    rw [decode, toJson, Json.tagged?_record rfl rfl held]
    show (Json.toOption? Json.toDouble? p.hold.inner (.ofOption .ofDouble plus)).bind
      (fun plus => some (readCell cell plus)) = _
    rw [Json.toOption?_ofOption plusRead]
    rfl
  | writeCell cell =>
    rw [decode, toJson, Json.tagged?_record rfl rfl held]
    rfl

end FunctionBehavior

namespace ScenarioLiteralEntry

theorem isHoldable_toJson {e : ScenarioLiteralEntry} (same : ReadBack e.numbers) {depth : Nat}
    (shallow : depth + 1 < Json.depthLimit) : Json.isHoldable depth e.toJson = true := by
  have shallow' : depth < Json.depthLimit := by omega
  cases e with
  | data key value => simp [toJson, shallow', ScenarioValue.isHoldable_toJson same shallow]
  | getter | setter => simp [toJson, shallow']

theorem decode_toJson {e : ScenarioLiteralEntry} (same : ReadBack e.numbers) {p : Json.Place}
    (shallow : p.depth + 1 < Json.depthLimit) : decode p e.toJson = some e := by
  have held := isHoldable_toJson same shallow
  cases e with
  | data key value =>
    rw [decode, toJson, Json.tagged?_record rfl rfl held]
    show (ScenarioValue.decode p.hold.inner value.toJson).bind (fun v => some (data key v)) = _
    rw [(ScenarioValue.decode_toJson same _).2]
    rfl
  | getter key function | setter key function =>
    rw [decode, toJson, Json.tagged?_record rfl rfl held]
    rfl

end ScenarioLiteralEntry

namespace DefineErrorKind

theorem decode_toJson (kind : DefineErrorKind) (p : Json.Place) :
    kind.toJson ≠ .null ∧ decode p kind.toJson = some kind := by
  refine ⟨nofun, ?_⟩
  cases kind <;> rfl

theorem isHoldable_toJson (kind : DefineErrorKind) (depth : Nat) :
    Json.isHoldable depth kind.toJson = true :=
  rfl

end DefineErrorKind

/-! ## Steps -/

namespace ScenarioStep

theorem isHoldable_toJson {step : ScenarioStep} (same : ReadBack step.numbers) {depth : Nat}
    (shallow : depth + 3 < Json.depthLimit) : Json.isHoldable depth step.toJson = true := by
  have outer : depth < Json.depthLimit := by omega
  have inner : depth + 1 < Json.depthLimit := by omega
  cases step with
  | createObject | construct | bind | setPrototype | delete | expectReceiver | expectKeys =>
    simp [toJson, fieldsToJson, outer, inner]
  | objectLiteral name entries =>
    have each : ∀ e ∈ entries, Json.isHoldable (depth + 2) e.toJson = true := fun e member =>
      ScenarioLiteralEntry.isHoldable_toJson (forall_mem_flatMap.1 same e member) shallow
    simpa [toJson, fieldsToJson, outer, inner] using each
  | createFunction name behavior recordReceiver =>
    have held : Json.isHoldable (depth + 1) behavior.toJson = true :=
      FunctionBehavior.isHoldable_toJson same (by omega)
    simp [toJson, fieldsToJson, outer, held]
  | setCell cell value | expectCell cell value =>
    have held := ScenarioValue.isHoldable_toJson same inner
    simp [toJson, fieldsToJson, outer, held]
  | put object key value receiver | expectValue object key value receiver =>
    have held := ScenarioValue.isHoldable_toJson same inner
    simp [toJson, fieldsToJson, outer, held]
  | define object key descriptor expectError =>
    have held : Json.isHoldable (depth + 1) descriptor.toJson = true :=
      ScenarioDescriptor.isHoldable_toJson same (by omega)
    simp [toJson, fieldsToJson, outer, held, DefineErrorKind.isHoldable_toJson]
  | expectDescriptor object key descriptor =>
    have held : ∀ d, descriptor = some d → Json.isHoldable (depth + 1) d.toJson = true :=
      fun d there => ScenarioDescriptor.isHoldable_toJson
        (forall_mem_flatMap.1 same d (Option.mem_toList.2 there)) (by omega)
    simpa [toJson, fieldsToJson, outer, Option.all_eq_true] using held

theorem decode_toJson {step : ScenarioStep} (same : ReadBack step.numbers) {p : Json.Place}
    (shallow : p.depth + 3 < Json.depthLimit) : decode p step.toJson = some step := by
  have listed : opNames.contains step.op = true := by cases step <;> rfl
  have untagged : (step.fieldsToJson.all fun field => field.1 != "op") = true := by
    cases step <;> rfl
  have held := isHoldable_toJson same shallow
  have inner : p.depth + 1 < Json.depthLimit := by omega
  rw [decode, toJson, Json.tagged?_record listed untagged held]
  -- fields that are plain texts and truth values are read by computation alone
  cases step with
  | construct | bind | delete | expectReceiver => rfl
  | createObject name proto nullPrototype =>
    show (Json.toOption? Json.toText? p.hold.inner (.ofOption .ofString proto)).bind
      (fun proto => some (createObject name proto nullPrototype)) = _
    rw [Json.toOption?_ofString, Option.bind_some]
  | objectLiteral name entries =>
    show (Json.toList? ScenarioLiteralEntry.decode p.hold.inner
      (.ofList ScenarioLiteralEntry.toJson entries)).bind
      (fun entries => some (objectLiteral name entries)) = _
    rw [Json.toList?_ofList, Option.bind_some]
    intro e member
    exact ScenarioLiteralEntry.decode_toJson (forall_mem_flatMap.1 same e member) shallow
  | createFunction name behavior recordReceiver =>
    show (FunctionBehavior.decode p.hold.inner behavior.toJson).bind (fun behavior =>
      (Json.toOption? Json.toText? p.hold.inner (.ofOption .ofString recordReceiver)).bind
        fun recordReceiver => some (createFunction name behavior recordReceiver)) = _
    rw [FunctionBehavior.decode_toJson same (p := p.hold.inner) (Nat.lt_of_succ_lt shallow),
      Option.bind_some, Json.toOption?_ofString, Option.bind_some]
  | setCell cell value =>
    show (ScenarioValue.decode p.hold.inner value.toJson).bind
      (fun value => some (setCell cell value)) = _
    rw [(ScenarioValue.decode_toJson same _).2, Option.bind_some]
  | setPrototype object proto =>
    show (Json.toOption? Json.toText? p.hold.inner (.ofOption .ofString proto)).bind
      (fun proto => some (setPrototype object proto)) = _
    rw [Json.toOption?_ofString, Option.bind_some]
  | define object key descriptor expectError =>
    show (ScenarioDescriptor.decode p.hold.inner descriptor.toJson).bind (fun descriptor =>
      (Json.toOption? DefineErrorKind.decode p.hold.inner
        (.ofOption DefineErrorKind.toJson expectError)).bind
        fun expectError => some (define object key descriptor expectError)) = _
    rw [(ScenarioDescriptor.decode_toJson same _).2, Option.bind_some,
      Json.toOption?_ofOption fun kind _ => DefineErrorKind.decode_toJson kind _, Option.bind_some]
  | put object key value receiver =>
    show (ScenarioValue.decode p.hold.inner value.toJson).bind (fun value =>
      (Json.toOption? Json.toText? p.hold.inner (.ofOption .ofString receiver)).bind
        fun receiver => some (put object key value receiver)) = _
    rw [(ScenarioValue.decode_toJson same _).2, Option.bind_some, Json.toOption?_ofString,
      Option.bind_some]
  | expectValue object key value receiver =>
    show (ScenarioValue.decode p.hold.inner value.toJson).bind (fun value =>
      (Json.toOption? Json.toText? p.hold.inner (.ofOption .ofString receiver)).bind
        fun receiver => some (expectValue object key value receiver)) = _
    rw [(ScenarioValue.decode_toJson same _).2, Option.bind_some, Json.toOption?_ofString,
      Option.bind_some]
  | expectDescriptor object key descriptor =>
    show (Json.toOption? ScenarioDescriptor.decode p.hold.inner
      (.ofOption ScenarioDescriptor.toJson descriptor)).bind
      (fun descriptor => some (expectDescriptor object key descriptor)) = _
    rw [Json.toOption?_ofOption, Option.bind_some]
    exact fun d there => ScenarioDescriptor.decode_toJson
      (forall_mem_flatMap.1 same d (Option.mem_toList.2 there)) _
  | expectKeys object keys =>
    show (Json.toList? Json.toText? p.hold.inner (.ofList .ofString keys)).bind
      (fun keys => some (expectKeys object keys)) = _
    rw [Json.toList?_ofList fun _ _ => rfl, Option.bind_some]
  | expectCell cell value =>
    show (ScenarioValue.decode p.hold.inner value.toJson).bind
      (fun value => some (expectCell cell value)) = _
    rw [(ScenarioValue.decode_toJson same _).2, Option.bind_some]

end ScenarioStep

/-! ## Manifests -/

theorem Scenario.decode_toJson {s : Scenario} (same : ReadBack s.numbers) {p : Json.Place}
    (shallow : p.depth + 5 < Json.depthLimit) : decode p s.toJson = some s := by
  show (Json.toList? ScenarioStep.decode p.inner (.ofList ScenarioStep.toJson s.steps)).bind
    (fun steps => some { s with steps }) = _
  rw [Json.toList?_ofList, Option.bind_some]
  intro step member
  exact ScenarioStep.decode_toJson (forall_mem_flatMap.1 same step member) shallow

namespace ScenarioManifest

theorem decode_toJson {m : ScenarioManifest} (same : ReadBack m.numbers) :
    decode .root m.toJson = some m := by
  show (Json.toList? Scenario.decode ⟨1, false⟩ (.ofList Scenario.toJson m.scenarios)).bind
    (fun scenarios => some { m with scenarios }) = _
  rw [Json.toList?_ofList, Option.bind_some]
  intro s member
  exact Scenario.decode_toJson (forall_mem_flatMap.1 same s member) (by decide)

theorem ofText_inv {text : String} {m : ScenarioManifest} (accepted : ofText text = .ok m) :
    m.fault? = none ∧ ∃ j, decode .root j = some m := by
  unfold ofText at accepted
  split at accepted
  · next m' read =>
    obtain ⟨j, -, read⟩ := Option.bind_eq_some_iff.1 read
    unfold validate at accepted
    split at accepted
    · cases accepted
    · next valid =>
      cases accepted
      exact ⟨valid, j, read⟩
  · cases accepted

theorem ofText_canonicalText {m : ScenarioManifest} (valid : m.fault? = none)
    (same : ReadBack m.numbers) : ofText m.canonicalText = .ok m := by
  rw [ofText, canonicalText, Json.read?_render m.toJson_wellFormed, Option.bind_some,
    decode_toJson same]
  dsimp only
  rw [validate, valid]

/-- The canonical text of an accepted manifest is accepted and read as that manifest, and no other
accepted manifest has the same canonical text.  All numbers of an accepted manifest are finite; it
is taken for granted that these finite numbers are read as they are written. -/
theorem canonical_text_determines_manifest {text : String} {m : ScenarioManifest}
    (accepted : ofText text = .ok m) :
    (∀ x ∈ m.numbers, x.isFinite = true) ∧
      ((∀ x ∈ m.numbers, x.isFinite = true → x.readBack? = some x) →
        ofText m.canonicalText = .ok m ∧
        (ofText m.canonicalText).map canonicalText = (ofText text).map canonicalText ∧
        ∀ text' m', ofText text' = .ok m' →
          (∀ x ∈ m'.numbers, x.isFinite = true → x.readBack? = some x) →
          m'.canonicalText = m.canonicalText → m' = m) := by
  have reread : ∀ {text : String} {m : ScenarioManifest}, ofText text = .ok m →
      (∀ x ∈ m.numbers, x.isFinite = true → x.readBack? = some x) →
      ofText m.canonicalText = .ok m := by
    intro text m accepted same
    obtain ⟨valid, j, read⟩ := ofText_inv accepted
    have finite := decode_yields _ _ _ read
    exact ofText_canonicalText valid fun x held => same x held (finite x held)
  obtain ⟨-, j, read⟩ := ofText_inv accepted
  refine ⟨decode_yields _ _ _ read, fun same => ?_⟩
  have again := reread accepted same
  refine ⟨again, by rw [again, accepted], ?_⟩
  intro text' m' accepted' same' sameText
  have again' := reread accepted' same'
  rw [sameText, again] at again'
  cases again'
  rfl

/-- A manifest that gives its records by position and a field as null, and its canonical text. -/
theorem canonical_text_of_positional_manifest :
    let text := "[\"descriptor-engine.object-model-scenarios.v1\",[[\"a\",\"\",[" ++
      "[\"define\",\"o\",\"k\",\x7b\"get\":null,\"enumerable\":null\x7d]," ++
      "[\"set_cell\",\"c\",\x7b\"number\":25e-1\x7d]]]]]"
    let m : ScenarioManifest := ⟨currentSchema, [⟨"a", "",
      [.define "o" "k" { get := some none } none, .setCell "c" (.number ⟨0x4004000000000000⟩)]⟩]⟩
    ofText text = .ok m ∧ ofText m.canonicalText = .ok m := by
  intro text m
  have accepted : ofText text = .ok m := by decide +kernel
  refine ⟨accepted, ((canonical_text_determines_manifest accepted).2 ?_).1⟩
  intro x held _
  obtain rfl : x = ⟨0x4004000000000000⟩ := List.mem_singleton.1 held
  decide +kernel

end ScenarioManifest

end ObjectModel
