import ObjectModel.Proofs.Silence
import ObjectModel.Proofs.Scenario

/-!
# What a verdict depends on

The verdict of a scenario depends on its steps and on how many prototype links its realm follows.
Steps do not look at the event log and each adds two objects at most (`ScenarioStep.modest`), so
scenarios with the same steps run alike in all realms that are alike in silence
(`Scenario.runs_agree`), and do run to their ends if they are not longer than there are handles for
(`Scenario.run_completes`).  Manifests add the position of a scenario, which only its trace name
shows (`ScenarioManifest.verdicts_depend_on_steps`).
-/

namespace ObjectModel

variable {α γ : Type}

/-! ## Steps are modest -/

namespace Program.Modest

variable {β σ : Type}

theorem construct (function : ObjectHandle) (args : List Value) :
    Modest 1 (Program.construct function args : Program β σ ObjectHandle) := by
  refine .free_bind (.inspectOrThrow fun _ => rfl) fun _ => ?_
  refine .free_bind (.inspect fun _ => rfl) fun intrinsics => ?_
  refine .free_bind (.request (.get _ _ _) nofun) fun prototype => ?_
  refine .bind_free (.request (.allocate _ _) nofun) fun object => ?_
  exact .bind_free (.request (.call _ _ _) nofun) fun returned => .done _

theorem applyEntries (object : ObjectHandle) (entries : List LiteralEntry) :
    Modest 0 (ObjectLiteral.applyEntries object entries : Program β σ Unit) := by
  induction entries with
  | nil => exact .done _
  | cons entry rest ih => exact .free_bind (.request (.define _ _ _) nofun) fun _ => ih

theorem build (literal : ObjectLiteral) :
    Modest 1 (literal.build : Program β σ ObjectHandle) := by
  refine .bind_free (.request .newObject nofun) fun object => ?_
  exact .bind_free (applyEntries object literal.entries) fun _ => .done _

end Program.Modest

namespace StepProgram

/-- The part of a step does not look at the event log and adds at most `room` objects. -/
def Modest (room : Nat) (p : StepProgram α) : Prop := Program.Modest room p.run

namespace Modest

variable {room rest : Nat} {p : StepProgram α} {f : α → StepProgram γ}

theorem pure (a : α) : Modest room (pure a) := .done _

theorem stop (failure : StepFailure) : Modest room (throw failure : StepProgram α) := .done _

theorem lookUp (e : Except StepFailure α) : Modest room (lookUp e) := .done _

theorem expect (condition : Bool) (detail : String) : Modest room (expect condition detail) := by
  cases condition with
  | true => exact pure ()
  | false => exact stop _

theorem act {p : ScenarioProgram α} (modest : Program.Modest room p) : Modest room (act p) :=
  modest.bind_free fun _ => .done _

theorem attempt {p : ScenarioProgram α} (modest : Program.Modest room p) :
    Modest room (attempt p) := by
  have mapped : Program.Modest room (Except.ok <$> p : ScenarioProgram (Except ObjectError α)) :=
    modest.bind_free fun _ => .done _
  have caught : Program.Modest (room + 0)
      ((Except.ok <$> p).orElse fun e => Pure.pure (.error e)) :=
    mapped.orElse fun _ => .done _
  exact act caught

theorem bind (first : Modest room p) (second : ∀ a, Modest rest (f a)) :
    Modest (room + rest) (p >>= f) := by
  refine Program.Modest.andThen first fun result => ?_
  cases result with
  | ok a => exact second a
  | error failure => exact .done _

/-- The first part adds nothing. -/
theorem free_bind (first : Modest 0 p) (second : ∀ a, Modest rest (f a)) :
    Modest rest (p >>= f) := by
  have both := bind first second
  rwa [Nat.zero_add] at both

/-- The second part adds nothing. -/
theorem bind_free (first : Modest room p) (second : ∀ a, Modest 0 (f a)) :
    Modest room (p >>= f) :=
  bind first second

end Modest

end StepProgram

namespace ScenarioStep

open StepProgram

theorem checkDefine_modest (key : String) (expected : Option DefineErrorKind)
    (result : Except ObjectError DefineOutcome) : Modest 0 (checkDefine key expected result) := by
  cases result with
  | error e => exact .expect ..
  | ok outcome =>
    cases expected with
    | none => exact .pure ()
    | some kind => exact .stop _

theorem checkDescriptor_modest (names : Names) (place : String)
    (descriptor : Option ScenarioDescriptor) (actual : Option PropertyDescriptor) :
    Modest 0 (checkDescriptor names place descriptor actual) := by
  cases descriptor with
  | none =>
    cases actual with
    | none => exact .pure ()
    | some actual => exact .stop _
  | some descriptor =>
    cases actual with
    | none => exact .stop _
    | some actual => exact .free_bind (.lookUp _) fun expected => .expect ..

/-- A step adds no more than a function and its `prototype`. -/
theorem modest (names : Names) (step : ScenarioStep) : Modest 2 (step.execute names) := by
  -- what a step does besides naming an object
  have naming : ∀ {p : StepProgram ObjectHandle} (name : String), Modest 2 p →
      Modest 2 (p >>= fun h => Pure.pure (OrderedMap.insert names name h)) :=
    fun _ first => first.bind_free fun _ => .pure _
  have unchanged : ∀ {γ : Type} {p : StepProgram γ}, Modest 0 p →
      Modest 2 (p >>= fun _ => Pure.pure names) :=
    fun first => first.free_bind fun _ => .pure _
  cases step with
  | createObject name proto nullPrototype =>
    cases nullPrototype with
    | true =>
      refine naming name (.act ?_)
      exact (Program.Modest.request (.createObject none) nofun).mono (Nat.le_succ 1)
    | false =>
      cases proto with
      | none =>
        refine naming name (.act ?_)
        exact (Program.Modest.request .newObject nofun).mono (Nat.le_succ 1)
      | some proto =>
        refine .free_bind (.lookUp _) fun p => naming name (.act ?_)
        exact (Program.Modest.request (.createObject (some p)) nofun).mono (Nat.le_succ 1)
  | objectLiteral name entries =>
    refine .free_bind (.lookUp _) fun entries => naming name (.act ?_)
    exact (Program.Modest.build _).mono (Nat.le_succ 1)
  | createFunction name behavior recordReceiver =>
    refine .free_bind (.lookUp _) fun action => naming name (.act ?_)
    exact .request (.createFunction _ _) nofun
  | construct name function =>
    refine .free_bind (.lookUp _) fun f => naming name (.act ?_)
    exact (Program.Modest.construct f []).mono (Nat.le_succ 1)
  | bind name object key =>
    refine .free_bind (.lookUp _) fun o => ?_
    refine .free_bind (.act (.request (.get _ _ _) nofun)) fun v => ?_
    cases v with
    | object handle => exact .pure _
    | _ => exact .stop _
  | setCell cell value =>
    refine .free_bind (.lookUp _) fun v => unchanged (.act ?_)
    exact .host fun _ => .done _
  | setPrototype object proto =>
    refine .free_bind (.lookUp _) fun o => .free_bind (.lookUp _) fun p => unchanged (.act ?_)
    exact .request (.setPrototype _ _) nofun
  | define object key descriptor expectError =>
    refine .free_bind (.lookUp _) fun o => .free_bind (.lookUp _) fun fields => ?_
    refine .free_bind (.attempt (.request (.define _ _ _) nofun)) fun result => ?_
    exact unchanged (checkDefine_modest ..)
  | put object key value receiver =>
    refine .free_bind (.lookUp _) fun o => .free_bind (.lookUp _) fun this => ?_
    refine .free_bind (.lookUp _) fun v => unchanged (.act ?_)
    exact .request (.put _ _ _ _) nofun
  | delete object key expected =>
    refine .free_bind (.lookUp _) fun o => ?_
    refine .free_bind (.act (.request (.delete _ _) nofun)) fun deleted => ?_
    exact unchanged (.expect ..)
  | expectValue object key value receiver =>
    refine .free_bind (.lookUp _) fun o => .free_bind (.lookUp _) fun this => ?_
    refine .free_bind (.lookUp _) fun expected => ?_
    refine .free_bind (.act (.request (.get _ _ _) nofun)) fun actual => ?_
    exact unchanged (.expect ..)
  | expectDescriptor object key descriptor =>
    refine .free_bind (.lookUp _) fun o => ?_
    refine .free_bind (.act (.inspectOrThrow fun _ => rfl)) fun shown => ?_
    exact unchanged (checkDescriptor_modest ..)
  | expectKeys object keys =>
    refine .free_bind (.lookUp _) fun o => ?_
    refine .free_bind (.act (.request (.enumerateKeys _) nofun)) fun actual => ?_
    exact unchanged (.expect ..)
  | expectCell cell value | expectReceiver cell object =>
    refine .free_bind (.lookUp _) fun expected => ?_
    refine .free_bind (.act (.host fun _ => .done _)) fun cells => ?_
    exact unchanged (.expect ..)

end ScenarioStep

theorem ScenarioFunction.run_modest (f : ScenarioFunction) (this : Value) (args : List Value) :
    Program.Modest 0 (f.run this args) :=
  .host fun _ => .done _

namespace Scenario

theorem runSteps_modest (names : Names) (position : Nat) (steps : List ScenarioStep) :
    Program.Modest (2 * steps.length) (runSteps names position steps) := by
  induction steps generalizing names position with
  | nil => exact .done _
  | cons step rest ih =>
    have settled : Program.Modest (2 + 0)
        ((step.execute names).run.orElse fun e => pure (.error (.ofError e))) :=
      (step.modest names).orElse fun _ => .done _
    have room : 2 + 0 + 2 * rest.length = 2 * (step :: rest).length := by
      rw [List.length_cons]
      omega
    rw [← room]
    refine settled.andThen fun result => ?_
    cases result with
    | ok names => exact ih names (position + 1)
    | error failure => exact .done _

/-! ## Runs of scenarios -/

/-- The run of the steps of a scenario in a new realm. -/
def runAll (s : Scenario) (config : RealmConfig) :
    Option (Except ObjectError Verdict × World ScenarioFunction Cells) :=
  (runSteps (.ofIntrinsics .standard) 0 s.steps).run ScenarioFunction.run 1
    ⟨.ofConfig config, .empty⟩

/-- The log entry of a scenario is that of the verdict on its steps. -/
theorem run_eq_ofVerdict (s : Scenario) (config : RealmConfig) :
    s.run config = (s.runAll config).bind fun
      | (.ok verdict, w) =>
        some (.ofVerdict config.tracePrefix s.id verdict w.realm.events.buffered.toList.length)
      | (.error _, _) => none := by
  have looked : s.program.run ScenarioFunction.run 1 ⟨.ofConfig config, .empty⟩ =
      ((runSteps (.ofIntrinsics .standard) 0 s.steps).andThen fun verdict => do
        let events ← Program.drainEvents
        return (verdict, events.length)).run ScenarioFunction.run 1 ⟨.ofConfig config, .empty⟩ :=
    rfl
  dsimp only [run, verdict?]
  rw [looked, Program.run_andThen, runAll]
  cases (runSteps (.ofIntrinsics .standard) 0 s.steps).run ScenarioFunction.run 1
    ⟨.ofConfig config, .empty⟩ with
  | none => rfl
  | some ended =>
    obtain ⟨result, w⟩ := ended
    cases result <;> rfl

theorem ofConfig_silenced {β : Type} {c c' : RealmConfig}
    (depth : c.maxPrototypeDepth = c'.maxPrototypeDepth) :
    (Realm.ofConfig c : Realm β).silenced = (Realm.ofConfig c').silenced := by
  simp only [Realm.silenced, Realm.ofConfig, depth]

/-- Scenarios with the same steps run alike wherever the same number of prototype links is
followed, up to what is recorded. -/
theorem runAll_agree {s s' : Scenario} (steps : s.steps = s'.steps) {c c' : RealmConfig}
    (depth : c.maxPrototypeDepth = c'.maxPrototypeDepth) :
    (s.runAll c).map World.silencedEnd =
      (s'.runAll c').map World.silencedEnd := by
  have modest := runSteps_modest (.ofIntrinsics .standard) 0 s.steps
  have bodies : ∀ f this args, ∃ room, Program.Modest room (ScenarioFunction.run f this args) :=
    fun f this args => ⟨0, f.run_modest this args⟩
  rw [runAll, runAll, ← steps, ← modest.run_silenced bodies, ← modest.run_silenced bodies,
    World.silenced, World.silenced, ofConfig_silenced depth]

end Scenario

/-- The two log entries say the same of the steps. -/
structure ScenarioLogEvent.SameVerdict (entry entry' : ScenarioLogEvent) : Prop where
  outcome : entry.outcome = entry'.outcome
  errorCode : entry.errorCode = entry'.errorCode
  stepsRun : entry.stepsRun = entry'.stepsRun
  failedStep : entry.failedStep = entry'.failedStep
  errorDetail : entry.errorDetail = entry'.errorDetail

theorem ScenarioLogEvent.ofVerdict_sameVerdict (traceId traceId' id id' : String)
    (verdict : Verdict) (events events' : Nat) :
    (ofVerdict traceId id verdict events).SameVerdict (ofVerdict traceId' id' verdict events') := by
  obtain ⟨stepsRun, failure⟩ := verdict
  cases failure with
  | none => exact ⟨rfl, rfl, rfl, rfl, rfl⟩
  | some failure =>
    obtain ⟨place, failure⟩ := failure
    cases failure <;> exact ⟨rfl, rfl, rfl, rfl, rfl⟩

namespace Scenario

theorem runs_agree {s s' : Scenario} (steps : s.steps = s'.steps) {c c' : RealmConfig}
    (depth : c.maxPrototypeDepth = c'.maxPrototypeDepth) :
    Option.Rel ScenarioLogEvent.SameVerdict (s.run c) (s'.run c') := by
  have agree := runAll_agree steps depth
  rw [run_eq_ofVerdict, run_eq_ofVerdict]
  generalize s.runAll c = ended at agree ⊢
  generalize s'.runAll c' = ended' at agree ⊢
  cases ended with
  | none =>
    cases Option.map_eq_none_iff.1 agree.symm
    exact .none
  | some pair =>
    obtain ⟨⟨result', w'⟩, rfl, same⟩ := Option.map_eq_some_iff.1 agree.symm
    obtain ⟨result, w⟩ := pair
    obtain rfl : result' = result := congrArg Prod.fst same
    cases result' with
    | error e => exact .none
    | ok verdict => exact .some (ScenarioLogEvent.ofVerdict_sameVerdict ..)

/-- A scenario runs to its end if there are handles for all that it can add. -/
theorem run_completes {s : Scenario} (short : s.steps.length + 3 ≤ 2 ^ 31) (config : RealmConfig) :
    ∃ entry, s.run config = some entry := by
  have start : (Realm.ofConfig config : Realm ScenarioFunction).heap.size = 5 := rfl
  have calls : ∀ (f : ScenarioFunction) this args (w : World ScenarioFunction Cells),
      ∃ result w', Program.runBody ScenarioFunction.run 1 f this args w = some (result, w') ∧
        w'.realm.heap.size = w.realm.heap.size :=
    fun f this args w => ⟨_, _, rfl, rfl⟩
  have modest := runSteps_modest (.ofIntrinsics .standard) 0 s.steps
  obtain ⟨result, w, ran, -⟩ := modest.completes calls (w := ⟨.ofConfig config, .empty⟩)
    (by rw [start]; omega)
  -- what the steps throw is a failure of theirs
  have upheld := runSteps_upholds s config .first s.steps fun j => by rw [Nat.zero_add]
  obtain ⟨verdict, rfl, -⟩ := upheld.ends result w ran
  rw [run_eq_ofVerdict, runAll, Program.run, ran]
  exact ⟨_, rfl⟩

end Scenario

/-! ## Runs of manifests -/

namespace ScenarioManifest

/-- The log entry of the scenario at a position. -/
theorem logged_of_run {m : ScenarioManifest} {config : RealmConfig} {result : ConformanceRunResult}
    (ends : m.run config = some result) {k : Nat} {s : Scenario}
    (atK : m.scenarios[k]? = some s) :
    ∃ entry, result.logs[k]? = some entry ∧
      s.run { config with tracePrefix := traceId config k } = some entry := by
  obtain ⟨length, each⟩ := run_logs ends
  have bound : k < result.logs.length := by
    rw [length]
    exact (List.getElem?_eq_some_iff.1 atK).1
  obtain ⟨s', atK', ran⟩ := each k _ (List.getElem?_eq_getElem bound)
  cases atK.symm.trans atK'
  exact ⟨_, List.getElem?_eq_getElem bound, ran⟩

theorem runScenarios_completes {scenarios : List Scenario}
    (short : ∀ s ∈ scenarios, s.steps.length + 3 ≤ 2 ^ 31) (config : RealmConfig) (position : Nat)
    (t : RunTally) : ∃ t', runScenarios config position t scenarios = some t' := by
  induction scenarios generalizing position t with
  | nil => exact ⟨t, rfl⟩
  | cons s rest ih =>
    obtain ⟨entry, ran⟩ := Scenario.run_completes (short s List.mem_cons_self)
      { config with tracePrefix := traceId config position }
    obtain ⟨⟨verdict, realmEvents⟩, concluded, -⟩ := Option.map_eq_some_iff.1 ran
    obtain ⟨t', later⟩ := ih (fun s member => short s (List.mem_cons_of_mem _ member))
      (position + 1) (t.add (traceId config position) s.id verdict realmEvents)
    exact ⟨t', runScenarios_cons_eq_some_iff.2 ⟨verdict, realmEvents, concluded, later⟩⟩

/-- A run ends in a result if there are handles for all that its scenarios can add. -/
theorem run_completes {m : ScenarioManifest}
    (short : ∀ s ∈ m.scenarios, s.steps.length + 3 ≤ 2 ^ 31) (config : RealmConfig) :
    ∃ result, m.run config = some result := by
  obtain ⟨t, ends⟩ := runScenarios_completes short config 0 {}
  exact ⟨_, by rw [run, ends]; rfl⟩

/-- The verdict of a scenario depends on its steps and the number of prototype links that are
followed.  Scenarios with the same steps, wherever they stand in whatever manifests, end in log
entries that say the same of the steps, or neither does; and runs of manifests whose scenarios have
handles enough do have a log. -/
theorem verdicts_depend_on_steps {m m' : ScenarioManifest} {config config' : RealmConfig}
    (depth : config.maxPrototypeDepth = config'.maxPrototypeDepth) {k k' : Nat} {s s' : Scenario}
    (atK : m.scenarios[k]? = some s) (atK' : m'.scenarios[k']? = some s')
    (steps : s.steps = s'.steps) :
    Option.Rel ScenarioLogEvent.SameVerdict
      (s.run { config with tracePrefix := traceId config k })
      (s'.run { config' with tracePrefix := traceId config' k' }) ∧
    (∀ result result', m.run config = some result → m'.run config' = some result' →
      ∃ entry entry', result.logs[k]? = some entry ∧ result'.logs[k']? = some entry' ∧
        entry.SameVerdict entry') ∧
    ((∀ t ∈ m.scenarios ++ m'.scenarios, t.steps.length + 3 ≤ 2 ^ 31) →
      ∃ result result', m.run config = some result ∧ m'.run config' = some result') := by
  have agree : Option.Rel ScenarioLogEvent.SameVerdict
      (s.run { config with tracePrefix := traceId config k })
      (s'.run { config' with tracePrefix := traceId config' k' }) :=
    Scenario.runs_agree steps depth
  refine ⟨agree, fun result result' ends ends' => ?_, fun short => ?_⟩
  · obtain ⟨entry, logged, ran⟩ := logged_of_run ends atK
    obtain ⟨entry', logged', ran'⟩ := logged_of_run ends' atK'
    rw [ran, ran'] at agree
    cases agree with
    | some same => exact ⟨entry, entry', logged, logged', same⟩
  · have left : ∀ t ∈ m.scenarios, t.steps.length + 3 ≤ 2 ^ 31 :=
      fun t member => short t (List.mem_append_left _ member)
    have right : ∀ t ∈ m'.scenarios, t.steps.length + 3 ≤ 2 ^ 31 :=
      fun t member => short t (List.mem_append_right _ member)
    obtain ⟨result, ends⟩ := run_completes left config
    obtain ⟨result', ends'⟩ := run_completes right config'
    exact ⟨result, result', ends, ends'⟩

/-- An assignment to a global constant, which has no effect, in a realm that records it and after
another scenario in one that does not. -/
theorem failed_expectation_in_two_manifests :
    let steps : List ScenarioStep :=
      [.put "global" "NaN" .null none, .expectValue "global" "NaN" .null none]
    let m : ScenarioManifest := ⟨currentSchema, [{ id := "alone", steps }]⟩
    let m' : ScenarioManifest :=
      ⟨currentSchema,
        [{ id := "before", steps := [.createObject "o" none false] },
          { id := "after", description := "the same again", steps }]⟩
    let config' : RealmConfig :=
      { tracePrefix := "unrecorded", recordEvents := false, eventCapacity := 0 }
    m.fault? = none ∧ m'.fault? = none ∧ config'.fault? = none ∧
    ∃ result result' entry entry', m.run {} = some result ∧ m'.run config' = some result' ∧
      result.logs[0]? = some entry ∧ result'.logs[1]? = some entry' ∧
      entry.realmEvents = 1 ∧ entry'.realmEvents = 0 ∧
      entry.failedStep = some "1:expect_value" ∧ entry.SameVerdict entry' := by
  intro steps m m' config'
  refine ⟨by decide +kernel, by decide +kernel, by decide +kernel, ?_⟩
  obtain ⟨-, agree, complete⟩ :=
    @verdicts_depend_on_steps m m' {} config' rfl 0 1 _ _ rfl rfl rfl
  obtain ⟨result, result', ends, ends'⟩ := complete (by decide)
  obtain ⟨entry, entry', logged, logged', same⟩ := agree result result' ends ends'
  -- what else the entries show
  have shown : (m.run {}).any (fun r => r.logs[0]?.any fun e =>
      e.realmEvents = 1 ∧ e.failedStep = some "1:expect_value") = true := by decide +kernel
  have shown' : (m'.run config').any (fun r => r.logs[1]?.any fun e =>
      e.realmEvents = 0) = true := by decide +kernel
  rw [ends, Option.any_some, logged, Option.any_some, decide_eq_true_eq] at shown
  rw [ends', Option.any_some, logged', Option.any_some, decide_eq_true_eq] at shown'
  exact ⟨result, result', entry, entry', ends, ends', logged, logged', shown.1, shown', shown.2,
    same⟩

end ScenarioManifest

end ObjectModel
