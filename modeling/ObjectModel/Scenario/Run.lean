import ObjectModel.Scenario.Interpreter
import ObjectModel.Scenario.Manifest

/-!
# Running a manifest

Each scenario of a manifest runs in a new realm, with a trace name that ends in its position.  Going
through them, a run logs an entry for each and counts how they end; its result has these entries, in
order, and a summary with the counters.  The gate fails if any scenario failed an expectation or
could not be carried out.
-/

namespace ObjectModel

/-- What became of one scenario. -/
structure ScenarioLogEvent where
  traceId : String
  component : String
  event : String
  /-- `pass`, `fail` or `error`. -/
  outcome : String
  errorCode : Option String
  scenarioId : String
  stepsRun : Nat
  /-- The position and name of the step that stopped the scenario. -/
  failedStep : Option String
  errorDetail : Option String
  /-- The number of events that the realm had buffered at the end. -/
  realmEvents : Nat
deriving DecidableEq, Inhabited

/-- How many scenarios ended how. -/
structure ConformanceRunSummary where
  runId : String
  manifestHash : String
  totalScenarios : Nat
  passed : Nat
  failed : Nat
  errored : Nat
deriving DecidableEq, Inhabited

/-- The result of running a manifest. -/
structure ConformanceRunResult where
  runId : String
  manifestHash : String
  logs : List ScenarioLogEvent
  summary : ConformanceRunSummary
deriving DecidableEq, Inhabited

/-- A gate that did not pass. -/
structure ConformanceGateError where
  failed : Nat
  errored : Nat
deriving DecidableEq, Inhabited

def ConformanceGateError.message (e : ConformanceGateError) : String :=
  "conformance gate failed: failed=" ++ Nat.repr e.failed ++ ", errored=" ++ Nat.repr e.errored

namespace ScenarioLogEvent

/-- The component that log entries name. -/
def componentName : String := "descriptor_conformance"

/-- The log entry of a verdict. -/
def ofVerdict (traceId scenarioId : String) (verdict : Verdict) (realmEvents : Nat) :
    ScenarioLogEvent :=
  let entry : ScenarioLogEvent :=
    { traceId, component := componentName, event := "scenario", outcome := "pass",
      errorCode := none, scenarioId, stepsRun := verdict.stepsRun, failedStep := none,
      errorDetail := none, realmEvents }
  match verdict.failure with
  | none => entry
  | some (step, .mismatch detail) =>
    { entry with
      outcome := "fail", errorCode := some StepFailure.mismatchCode, failedStep := some step,
      errorDetail := some detail }
  | some (step, .setup code detail) =>
    { entry with
      outcome := "error", errorCode := some code, failedStep := some step,
      errorDetail := some detail }

end ScenarioLogEvent

/-- The log entries of a run and how many of its scenarios ended how, so far. -/
structure RunTally where
  logs : Array ScenarioLogEvent := #[]
  passed : Nat := 0
  failed : Nat := 0
  errored : Nat := 0
deriving DecidableEq, Inhabited

/-- Counts the verdict on a scenario and logs it. -/
def RunTally.add (t : RunTally) (traceId scenarioId : String) (verdict : Verdict)
    (realmEvents : Nat) : RunTally :=
  let logs := t.logs.push (.ofVerdict traceId scenarioId verdict realmEvents)
  match verdict.failure with
  | none => { t with logs, passed := t.passed + 1 }
  | some (_, .mismatch _) => { t with logs, failed := t.failed + 1 }
  | some (_, .setup ..) => { t with logs, errored := t.errored + 1 }

/-- The verdict on a scenario in a new realm and the number of events that are still buffered then;
`none` if the realm runs out of handles.  No host function of a scenario calls another one. -/
def Scenario.verdict? (s : Scenario) (config : RealmConfig) : Option (Verdict × Nat) :=
  let world : World ScenarioFunction Cells := ⟨.ofConfig config, .empty⟩
  match s.program.run ScenarioFunction.run 1 world with
  | some (.ok ended, _) => some ended
  | _ => none

namespace ConformanceRunResult

/-- The result of a run that is over. -/
def ofTally (manifestHash : String) (t : RunTally) : ConformanceRunResult :=
  let runId := "scenarios-" ++ String.ofList (manifestHash.toList.take 12)
  { runId, manifestHash, logs := t.logs.toList,
    summary :=
      { runId, manifestHash, totalScenarios := t.logs.size,
        passed := t.passed, failed := t.failed, errored := t.errored } }

/-- Whether the run counts as passed, or the numbers that speak against it. -/
def enforceGate (r : ConformanceRunResult) : Except ConformanceGateError Unit :=
  if 0 < r.summary.failed ∨ 0 < r.summary.errored then
    .error ⟨r.summary.failed, r.summary.errored⟩
  else .ok ()

/-- The entries of the scenarios that did not pass. -/
def failures (r : ConformanceRunResult) : List ScenarioLogEvent :=
  r.logs.filter (·.outcome != "pass")

end ConformanceRunResult

namespace ScenarioManifest

/-- The trace name of the scenario at a position. -/
def traceId (config : RealmConfig) (position : Nat) : String :=
  config.tracePrefix ++ "-" ++ zeroPadded 4 position

/-- Runs scenarios, of which the first has the given position, and adds them to a tally. -/
def runScenarios (config : RealmConfig) (position : Nat) (t : RunTally) :
    List Scenario → Option RunTally
  | [] => some t
  | s :: rest => do
    let tracePrefix := traceId config position
    let (verdict, realmEvents) ← s.verdict? { config with tracePrefix }
    runScenarios config (position + 1) (t.add tracePrefix s.id verdict realmEvents) rest

/-- Runs every scenario; `none` if a realm runs out of handles. -/
def run (m : ScenarioManifest) (config : RealmConfig) : Option ConformanceRunResult := do
  return .ofTally m.contentHash (← runScenarios config 0 {} m.scenarios)

end ScenarioManifest

end ObjectModel
