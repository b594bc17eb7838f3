import ObjectModel.Json.Decoding
import ObjectModel.Scenario.Run

/-!
# JSON of run results
-/

namespace ObjectModel

namespace ScenarioLogEvent

def toJson (e : ScenarioLogEvent) : Json :=
  .record [("trace_id", .ofString e.traceId), ("component", .ofString e.component),
    ("event", .ofString e.event), ("outcome", .ofString e.outcome),
    ("error_code", .ofOption .ofString e.errorCode), ("scenario_id", .ofString e.scenarioId),
    ("steps_run", .ofNat e.stepsRun), ("failed_step", .ofOption .ofString e.failedStep),
    ("error_detail", .ofOption .ofString e.errorDetail), ("realm_events", .ofNat e.realmEvents)]

/-- A count, of which 64 bits are read. -/
def count : Json.Decoder Nat := Json.toNatBelow? (2 ^ 64)

def decode : Json.Decoder ScenarioLogEvent := fun p j => do
  let r ← Json.record?
    ["trace_id", "component", "event", "outcome", "error_code", "scenario_id", "steps_run",
      "failed_step", "error_detail", "realm_events"] false p j
  return {
    traceId := ← r.required "trace_id" Json.toText?
    component := ← r.required "component" Json.toText?
    event := ← r.required "event" Json.toText?
    outcome := ← r.required "outcome" Json.toText?
    errorCode := ← r.nullable "error_code" Json.toText?
    scenarioId := ← r.required "scenario_id" Json.toText?
    stepsRun := ← r.required "steps_run" count
    failedStep := ← r.nullable "failed_step" Json.toText?
    errorDetail := ← r.nullable "error_detail" Json.toText?
    realmEvents := ← r.required "realm_events" count }

end ScenarioLogEvent

namespace ConformanceRunSummary

/-- The members of a summary. -/
def members (s : ConformanceRunSummary) : List (String × Json) :=
  [("run_id", .ofString s.runId), ("manifest_hash", .ofString s.manifestHash),
    ("total_scenarios", .ofNat s.totalScenarios), ("passed", .ofNat s.passed),
    ("failed", .ofNat s.failed), ("errored", .ofNat s.errored)]

def toJson (s : ConformanceRunSummary) : Json := .record s.members

def decode : Json.Decoder ConformanceRunSummary := fun p j => do
  let r ← Json.record?
    ["run_id", "manifest_hash", "total_scenarios", "passed", "failed", "errored"] false p j
  let count := ScenarioLogEvent.count
  return {
    runId := ← r.required "run_id" Json.toText?
    manifestHash := ← r.required "manifest_hash" Json.toText?
    totalScenarios := ← r.required "total_scenarios" count
    passed := ← r.required "passed" count
    failed := ← r.required "failed" count
    errored := ← r.required "errored" count }

end ConformanceRunSummary

namespace ConformanceRunResult

def toJson (r : ConformanceRunResult) : Json :=
  .record [("run_id", .ofString r.runId), ("manifest_hash", .ofString r.manifestHash),
    ("logs", .ofList ScenarioLogEvent.toJson r.logs), ("summary", r.summary.toJson)]

def decode : Json.Decoder ConformanceRunResult := fun p j => do
  let r ← Json.record? ["run_id", "manifest_hash", "logs", "summary"] false p j
  return {
    runId := ← r.required "run_id" Json.toText?
    manifestHash := ← r.required "manifest_hash" Json.toText?
    logs := ← r.required "logs" (Json.toList? ScenarioLogEvent.decode)
    summary := ← r.required "summary" ConformanceRunSummary.decode }

end ConformanceRunResult

end ObjectModel
