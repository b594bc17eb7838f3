import ObjectModel.Scenario.Run
import ObjectModel.Proofs.Steps

/-!
# Scenarios keep to their realms

The points of a scenario are the worlds before its steps and those that its steps come by, with the
names that are in force there (`Scenario.ComesBy`).  They are all that a run of the scenario comes
by, up to the events that it drains at the end (`Scenario.program_upholds`).

At every point, names, cells, properties and prototype links are those of existing objects
(`Scenario.ComesBy.selfContained`), because each step begins in a closed world
(`Scenario.Begins.closed`) and stays in closed worlds (`ScenarioStep.safe`).  What can still go
wrong is little, and it is all that a log can show (`ScenarioManifest.scenarios_keep_to_realm`).
-/

namespace ObjectModel

/-! ## The points of a scenario -/

/-- What a scenario can reach by its names, its cells and its objects exists in its realm, and what
its objects call is a function. -/
structure SelfContained (names : Names) (w : World ScenarioFunction Cells) : Prop where
  names : ∀ name h, names.get? name = some h → w.realm.heap.contains h = true
  cells : ∀ cell h, w.host.get? cell = some (.object h) → w.realm.heap.contains h = true
  references : ∀ h o k, w.realm.heap.get? h = some o → o.refersTo k →
    w.realm.heap.contains k = true
  accessors : ∀ h o key p f, w.realm.heap.get? h = some o → o.getOwn? key = some p → p.calls f →
    w.realm.isCallable f = true

theorem ClosedWorld.selfContained {names : Names} {w : World ScenarioFunction Cells}
    (closed : ClosedWorld w) (live : names.LiveIn w.realm) : SelfContained names w where
  names := live
  cells cell h held := closed.cells cell _ held h rfl
  references := closed.realm.references
  accessors h o key p f objectLive owned calls :=
    closed.realm.accessors h o objectLive key p f owned calls

namespace Scenario

/-- The names and the world with which the step at a position begins, or with which the scenario
ends if there is none. -/
inductive Begins (s : Scenario) (config : RealmConfig) :
    Nat → Names → World ScenarioFunction Cells → Prop where
  | first : Begins s config 0 (.ofIntrinsics .standard) ⟨.ofConfig config, .empty⟩
  | next {i names w step names' w'} (begins : Begins s config i names w)
      (current : s.steps[i]? = some step)
      (ends : (step.execute names).run.run ScenarioFunction.run 1 w = some (.ok (.ok names'), w')) :
      Begins s config (i + 1) names' w'

/-- The points of an execution: the names in force and the world. -/
inductive ComesBy (s : Scenario) (config : RealmConfig) :
    Names → World ScenarioFunction Cells → Prop where
  | between {i names w} (begins : s.Begins config i names w) : ComesBy s config names w
  | within {i names w step v} (begins : s.Begins config i names w)
      (current : s.steps[i]? = some step)
      (visited : (step.execute names).run.visits ScenarioFunction.run 1 w v) :
      ComesBy s config names v

variable {s : Scenario} {config : RealmConfig}

theorem ofConfig_closedWorld (config : RealmConfig) :
    ClosedWorld ⟨.ofConfig config, .empty⟩ where
  realm := Realm.ofConfig_closed config
  cells := nofun
  constants := nofun

theorem Begins.closed {i : Nat} {names : Names} {w : World ScenarioFunction Cells}
    (begins : s.Begins config i names w) : ClosedWorld w ∧ names.LiveIn w.realm := by
  induction begins with
  | first =>
    exact ⟨ofConfig_closedWorld config, Names.ofIntrinsics_live (Realm.ofConfig_intrinsicsLive _)⟩
  | @next i names w step names' w' begins current ends ih =>
    obtain ⟨closed, live⟩ := ih
    have safe := step.safe closed live
    refine ⟨safe.always w' (Program.visitsWith_end _ ends), ?_⟩
    cases safe.ends _ w' ends with
    | value named => exact named

theorem ComesBy.selfContained {names : Names} {w : World ScenarioFunction Cells}
    (comesBy : s.ComesBy config names w) : SelfContained names w := by
  cases comesBy with
  | between begins =>
    obtain ⟨closed, live⟩ := begins.closed
    exact closed.selfContained live
  | within begins current visited =>
    obtain ⟨closed, live⟩ := begins.closed
    have always := (ScenarioStep.safe closed live _).always w visited
    exact always.selfContained (live.mono (Realm.grows_of_visit visited))

/-! ## Verdicts -/

/-- The step at a position begins and stops the scenario with a failure, which an error counts
as. -/
inductive StopsAt (s : Scenario) (config : RealmConfig) (i : Nat) (step : ScenarioStep) :
    StepFailure → Prop where
  | failed {names w failure w'} (begins : s.Begins config i names w)
      (current : s.steps[i]? = some step)
      (ends : (step.execute names).run.run ScenarioFunction.run 1 w =
        some (.ok (.error failure), w')) : StopsAt s config i step failure
  | threw {names w e w'} (begins : s.Begins config i names w) (current : s.steps[i]? = some step)
      (ends : (step.execute names).run.run ScenarioFunction.run 1 w = some (.error e, w')) :
    StopsAt s config i step (.ofError e)

/-- The verdict on a scenario whose steps end as they do. -/
inductive Earns (s : Scenario) (config : RealmConfig) : Verdict → Prop where
  | passed {names w} (begins : s.Begins config s.steps.length names w) :
    Earns s config ⟨s.steps.length, none⟩
  | stopped {i step failure} (stops : s.StopsAt config i step failure) :
    Earns s config ⟨i + 1, some (Nat.repr i ++ ":" ++ step.op, failure)⟩

theorem Begins.le_length {i : Nat} {names : Names} {w : World ScenarioFunction Cells}
    (begins : s.Begins config i names w) : i ≤ s.steps.length := by
  cases begins with
  | first => exact Nat.zero_le _
  | next begins current ends => exact (List.getElem?_eq_some_iff.1 current).1

theorem StopsAt.allowed {i : Nat} {step : ScenarioStep} {failure : StepFailure}
    (stops : s.StopsAt config i step failure) :
    s.steps[i]? = some step ∧ failure.AllowedIn step.op := by
  cases stops with
  | failed begins current ends =>
    obtain ⟨closed, live⟩ := begins.closed
    cases (step.safe closed live).ends _ _ ends with
    | failure allowed => exact ⟨current, allowed⟩
  | threw begins current ends =>
    obtain ⟨closed, live⟩ := begins.closed
    cases (step.safe closed live).ends _ _ ends with
    | error allowed => exact ⟨current, allowed⟩

/-! ## Runs of scenarios -/

/-- A scenario that stops does so at one of its steps, and in a way that the step allows. -/
def Explains (s : Scenario) (verdict : Verdict) : Prop :=
  ∀ place failure, verdict.failure = some (place, failure) → ∃ i step, s.steps[i]? = some step ∧
    place = Nat.repr i ++ ":" ++ step.op ∧ failure.AllowedIn step.op

theorem Earns.explains {verdict : Verdict} (earned : s.Earns config verdict) :
    s.Explains verdict := by
  cases earned with
  | passed begins => exact nofun
  | @stopped i step failure stops =>
    obtain ⟨current, allowed⟩ := stops.allowed
    rintro _ _ ⟨⟩
    exact ⟨i, step, current, rfl, allowed⟩

/-- How a step at a position ends once its errors count as failures: the next one begins, or it
stops the scenario. -/
inductive Settles (s : Scenario) (config : RealmConfig) (i : Nat) (step : ScenarioStep) :
    Except ObjectError (Except StepFailure Names) → World ScenarioFunction Cells → Prop where
  | next {names w} (begins : s.Begins config (i + 1) names w) :
      Settles s config i step (.ok (.ok names)) w
  | stop {failure w} (stops : s.StopsAt config i step failure) :
      Settles s config i step (.ok (.error failure)) w

/-- The steps from a position on come by points of the scenario only, and their verdict is
earned. -/
theorem runSteps_upholds (s : Scenario) (config : RealmConfig) {i : Nat} {names : Names}
    {w : World ScenarioFunction Cells} (begins : s.Begins config i names w)
    (steps : List ScenarioStep) (remaining : ∀ j, s.steps[i + j]? = steps[j]?) :
    (runSteps names i steps).Upholds ScenarioFunction.run 1
      (fun v => ∃ names, s.ComesBy config names v) w
      fun result _ => ∃ verdict, result = .ok verdict ∧ s.Earns config verdict := by
  induction steps generalizing i names w with
  | nil =>
    have last : s.steps.length = i :=
      Nat.le_antisymm (List.getElem?_eq_none_iff.1 (remaining 0)) begins.le_length
    subst last
    exact .done ⟨names, .between begins⟩ ⟨_, rfl, .passed begins⟩
  | cons step rest ih =>
    have current : s.steps[i]? = some step := remaining 0
    -- the run of the step as it is: it begins here, so its end is that of the scenario's step
    have itself := (Program.Upholds.self ScenarioFunction.run 1 (step.execute names).run
      w).weaken_inv fun v visited =>
        (⟨names, .within begins current visited⟩ : ∃ names, s.ComesBy config names v)
    have settled : ((step.execute names).run.orElse fun e => pure (.error (.ofError e))).Upholds
        ScenarioFunction.run 1 (fun v => ∃ names, s.ComesBy config names v) w
        (s.Settles config i step) := by
      refine itself.orElse (fun outcome w' ends => ?_) fun e w' _ inv ends => ?_
      · cases outcome with
        | ok names' => exact .next (begins.next current ends)
        | error failure => exact .stop (.failed begins current ends)
      · exact .done inv (.stop (.threw begins current ends))
    refine settled.andThen (fun outcome w' _ inv settles => ?_) fun e w' settles => ?_
    · cases settles with
      | next begins' =>
        refine ih begins' fun j => ?_
        rw [Nat.add_assoc, Nat.add_comm 1 j]
        exact remaining (j + 1)
      | stop stops => exact .done inv ⟨_, rfl, .stopped stops⟩
    · cases settles

/-- The world of a point of the scenario, up to the event log. -/
def Covers (s : Scenario) (config : RealmConfig) (v : World ScenarioFunction Cells) : Prop :=
  ∃ names w, s.ComesBy config names w ∧ v.host = w.host ∧
    v.realm = { w.realm with events := v.realm.events }

/-- A run of the scenario comes by the worlds of its points only, and its verdict is earned. -/
theorem program_upholds (s : Scenario) (config : RealmConfig) :
    s.program.Upholds ScenarioFunction.run 1 (s.Covers config) ⟨.ofConfig config, .empty⟩
      fun result _ => ∃ verdict events, result = .ok (verdict, events) ∧
        s.Earns config verdict := by
  have covers : ∀ v, (∃ names, s.ComesBy config names v) → s.Covers config v := by
    rintro v ⟨names, comesBy⟩
    exact ⟨names, v, comesBy, rfl, rfl⟩
  have steps := (runSteps_upholds s config .first s.steps fun j => by rw [Nat.zero_add]).weaken_inv
    covers
  refine .look (steps.andThen (fun verdict w _ covered earned => ?_) fun e w earned => ?_)
  · obtain ⟨_, ⟨⟩, earned⟩ := earned
    -- the events are drained at the end, which only the event log shows
    have drained : Program.drainEvents.Upholds ScenarioFunction.run 1 (s.Covers config) w
        fun result _ => ∃ events, result = .ok events := by
      obtain ⟨names, w', comesBy, host, realm⟩ := covered
      refine .request ⟨names, w', comesBy, host, realm⟩ ⟨⟨names, w', comesBy, host, ?_⟩, _, rfl⟩
      rw [realm]
    refine drained.andThen (fun events _ _ covered _ => ?_) fun e _ failed => ?_
    · exact .done covered ⟨_, _, rfl, earned⟩
    · obtain ⟨_, ⟨⟩⟩ := failed
  · obtain ⟨_, ⟨⟩, _⟩ := earned

end Scenario

/-! ## Logs -/

/-- All that the log entry of a scenario can show. -/
structure ScenarioLogEvent.Confined (entry : ScenarioLogEvent) (s : Scenario) : Prop where
  code : ∀ code, entry.errorCode = some code →
    code ≠ "OM-HEAP-0001" ∧ code ≠ "OM-CALL-0002" ∧ ∀ kind : DefineErrorKind, code ≠ kind.code
  error : entry.outcome = "error" → entry.errorCode = some "OM-SCENARIO-0002" ∨
    entry.errorCode = some "OM-CALL-0001" ∧ ∃ i step, s.steps[i]? = some step ∧
      entry.failedStep = some (Nat.repr i ++ ":" ++ step.op) ∧
      (step.op = "construct" ∨ step.op = "object_literal")

theorem ScenarioLogEvent.ofVerdict_confined {s : Scenario} {verdict : Verdict}
    (explained : s.Explains verdict) (traceId scenarioId : String) (realmEvents : Nat) :
    (ofVerdict traceId scenarioId verdict realmEvents).Confined s := by
  obtain ⟨stepsRun, failure⟩ := verdict
  cases failure with
  | none =>
    have passed : "pass" ≠ "error" := by decide
    exact ⟨nofun, fun error => absurd error passed⟩
  | some failure =>
    obtain ⟨place, failure⟩ := failure
    obtain ⟨i, step, current, rfl, allowed⟩ := explained place failure rfl
    cases failure with
    | mismatch detail =>
      have failed : "fail" ≠ "error" := by decide
      refine ⟨?_, fun error => absurd error failed⟩
      rintro _ ⟨⟩
      exact ⟨by decide, by decide, fun kind => by cases kind <;> decide⟩
    | setup code detail =>
      obtain rfl | ⟨rfl, calling⟩ := allowed
      · refine ⟨?_, fun _ => .inl rfl⟩
        rintro _ ⟨⟩
        exact ⟨by decide, by decide, fun kind => by cases kind <;> decide⟩
      · refine ⟨?_, fun _ => .inr ⟨rfl, i, step, current, rfl, calling⟩⟩
        rintro _ ⟨⟩
        exact ⟨by decide, by decide, fun kind => by cases kind <;> decide⟩

namespace Scenario

variable {s : Scenario} {config : RealmConfig} {entry : ScenarioLogEvent}

/-- The log entry of a scenario that is run by itself. -/
def run (s : Scenario) (config : RealmConfig) : Option ScenarioLogEvent :=
  (s.verdict? config).map fun (verdict, realmEvents) =>
    .ofVerdict config.tracePrefix s.id verdict realmEvents

theorem run_inv (ends : s.run config = some entry) : ∃ verdict realmEvents,
    s.Earns config verdict ∧
      entry = .ofVerdict config.tracePrefix s.id verdict realmEvents := by
  obtain ⟨⟨verdict, realmEvents⟩, concluded, rfl⟩ := Option.map_eq_some_iff.1 ends
  dsimp only [verdict?] at concluded
  split at concluded
  · next ended w ran =>
    cases concluded
    obtain ⟨_, _, ⟨⟩, earned⟩ := (s.program_upholds config).ends _ _ ran
    exact ⟨verdict, realmEvents, earned, rfl⟩
  · cases concluded

theorem run_confined (ends : s.run config = some entry) : entry.Confined s := by
  obtain ⟨verdict, realmEvents, earned, rfl⟩ := run_inv ends
  exact ScenarioLogEvent.ofVerdict_confined earned.explains _ _ _

end Scenario

namespace RunTally

theorem logs_add (t : RunTally) (traceId scenarioId : String) (verdict : Verdict)
    (realmEvents : Nat) : (t.add traceId scenarioId verdict realmEvents).logs =
      t.logs.push (.ofVerdict traceId scenarioId verdict realmEvents) := by
  unfold add
  split <;> rfl

end RunTally

namespace ScenarioManifest

section Runs

variable {config : RealmConfig} {position : Nat} {t t' : RunTally} {m : ScenarioManifest}
  {result : ConformanceRunResult}

/-- The first scenario ends in a verdict, and the others are run with that in the tally. -/
theorem runScenarios_cons_eq_some_iff {s : Scenario} {rest : List Scenario} :
    runScenarios config position t (s :: rest) = some t' ↔
      ∃ verdict realmEvents,
        s.verdict? { config with tracePrefix := traceId config position } =
          some (verdict, realmEvents) ∧
        runScenarios config (position + 1)
          (t.add (traceId config position) s.id verdict realmEvents) rest = some t' := by
  rw [runScenarios, Option.bind_eq_bind, Option.bind_eq_some_iff, Prod.exists]

theorem run_inv (ends : m.run config = some result) :
    ∃ t, runScenarios config 0 {} m.scenarios = some t ∧ result = .ofTally m.contentHash t := by
  rw [run, Option.bind_eq_bind, Option.bind_eq_some_iff] at ends
  obtain ⟨t, ends, ⟨⟩⟩ := ends
  exact ⟨t, ends, rfl⟩

/-- A run adds the log entry of each scenario, in order, to those that there are. -/
theorem runScenarios_inv {scenarios : List Scenario}
    (ends : runScenarios config position t scenarios = some t') :
    ∃ entries, t'.logs.toList = t.logs.toList ++ entries ∧ entries.length = scenarios.length ∧
      ∀ (k : Nat) (entry : ScenarioLogEvent), entries[k]? = some entry →
        ∃ s, scenarios[k]? = some s ∧
          s.run { config with tracePrefix := traceId config (position + k) } = some entry := by
  -- the tally changes on the way, so the entries are those that come behind the ones that it has
  induction scenarios generalizing position t with
  | nil =>
    cases ends
    exact ⟨[], (List.append_nil _).symm, rfl, fun k entry none => nomatch none⟩
  | cons s rest ih =>
    obtain ⟨verdict, realmEvents, concluded, ends⟩ := runScenarios_cons_eq_some_iff.1 ends
    obtain ⟨entries, logged, length, each⟩ := ih ends
    refine ⟨.ofVerdict (traceId config position) s.id verdict realmEvents :: entries, ?_,
      congrArg (· + 1) length, fun k entry atK => ?_⟩
    · rw [logged, RunTally.logs_add, Array.toList_push, List.append_assoc]
      rfl
    · cases k with
      | zero =>
        cases atK
        exact ⟨s, rfl, by rw [Nat.add_zero, Scenario.run, concluded]; rfl⟩
      | succ k =>
        obtain ⟨s', atK', ran⟩ := each k entry atK
        refine ⟨s', atK', ?_⟩
        rwa [Nat.add_comm k 1, ← Nat.add_assoc]

/-- The log of a run has an entry for each scenario, at its position. -/
theorem run_logs (ends : m.run config = some result) : result.logs.length = m.scenarios.length ∧
      ∀ (k : Nat) (entry : ScenarioLogEvent), result.logs[k]? = some entry →
        ∃ s, m.scenarios[k]? = some s ∧
          s.run { config with tracePrefix := traceId config k } = some entry := by
  obtain ⟨t, added, rfl⟩ := run_inv ends
  obtain ⟨entries, logged, length, each⟩ := runScenarios_inv added
  have logs : t.logs.toList = entries := logged
  subst logs
  refine ⟨length, fun k entry atK => ?_⟩
  obtain ⟨s, atK', ran⟩ := each k entry atK
  rw [Nat.zero_add] at ran
  exact ⟨s, atK', ran⟩

end Runs

/-- A scenario keeps to its realm: at all its points, which are all that its runs come by, whatever
it holds on to is an object of the realm and whatever its objects call is a function.  So no log
shows a missing object, a failed function or a rejected definition, and an error is a set-up that
does not fit together, or a construction or an object initialiser with an object that is no
function. -/
theorem scenarios_keep_to_realm (m : ScenarioManifest) (config : RealmConfig) :
    (∀ (k : Nat) (s : Scenario), m.scenarios[k]? = some s →
      (∀ names w, s.ComesBy { config with tracePrefix := traceId config k } names w →
        SelfContained names w) ∧
      ∀ v, s.program.visits ScenarioFunction.run 1
          ⟨.ofConfig { config with tracePrefix := traceId config k }, .empty⟩ v →
        s.Covers { config with tracePrefix := traceId config k } v) ∧
    ∀ result, m.run config = some result →
      ∀ (k : Nat) (entry : ScenarioLogEvent), result.logs[k]? = some entry →
        ∃ s, m.scenarios[k]? = some s ∧ entry.Confined s := by
  constructor
  · intro k s _
    exact ⟨fun _ _ comesBy => comesBy.selfContained, (s.program_upholds _).always⟩
  · intro result ends k entry logged
    obtain ⟨s, atK, ran⟩ := (run_logs ends).2 k entry logged
    exact ⟨s, atK, s.run_confined ran⟩

/-- A scenario that constructs with a plain object.  The object that it has named exists when the
second step begins, and the log shows that this step called what is no function. -/
theorem construction_with_plain_object :
    let s : Scenario :=
      { id := "s", steps := [.createObject "o" none false, .construct "x" "o"] }
    let m : ScenarioManifest := ⟨currentSchema, [s]⟩
    (∃ names w, s.ComesBy { tracePrefix := traceId {} 0 } names w ∧
      names.get? "o" = some ⟨5⟩ ∧ w.realm.heap.contains ⟨5⟩ = true) ∧
    ∃ result entry, m.run {} = some result ∧ result.logs[0]? = some entry ∧
      entry.outcome = "error" ∧ entry.errorCode = some "OM-CALL-0001" ∧ entry.Confined s := by
  intro s m
  obtain ⟨points, logs⟩ := scenarios_keep_to_realm m {}
  constructor
  · have begins : ∃ names w, s.Begins { tracePrefix := traceId {} 0 } 1 names w ∧
        names.get? "o" = some ⟨5⟩ := ⟨_, _, .next .first rfl rfl, rfl⟩
    obtain ⟨names, w, begins, named⟩ := begins
    have comesBy := Scenario.ComesBy.between begins
    exact ⟨names, w, comesBy, named, ((points 0 s rfl).1 names w comesBy).names "o" _ named⟩
  · have ran : ∃ t entry, runScenarios {} 0 {} m.scenarios = some t ∧
        t.logs.toList[0]? = some entry ∧ entry.outcome = "error" ∧
        entry.errorCode = some "OM-CALL-0001" := ⟨_, _, rfl, rfl, rfl, rfl⟩
    obtain ⟨t, entry, ran, logged, outcome, code⟩ := ran
    have ends : m.run {} = some (.ofTally m.contentHash t) := by rw [run, ran]; rfl
    obtain ⟨_, ⟨⟩, confined⟩ := logs _ ends 0 entry logged
    exact ⟨_, entry, ends, logged, outcome, code, confined⟩

end ScenarioManifest

end ObjectModel
