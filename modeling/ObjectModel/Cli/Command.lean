import ObjectModel.Cli.Arguments
import ObjectModel.Cli.FileStore
import ObjectModel.Codec.Run
import ObjectModel.Config.Toml

/-!
# The command

Runs a manifest, writes the evidence of the run, and reports on it.  The evidence is one line of
JSON for the summary and one for each scenario.  The report is one line for each number of the
summary and one for each scenario that did not pass.  A run whose gate fails is reported like any
other, but the command fails.
-/

namespace ObjectModel.Cli

/-- Why the command failed. -/
inductive CommandError where
  | usage (e : UsageError)
  | loadingConfig (path : String) (e : ConfigError)
  | runningManifest (path : String) (e : ScenarioError)
  | creatingDirectory (e : FileError)
  | writing (path : String) (e : FileError)
  | renamingTo (path : String) (e : FileError)
  | gate (e : ConformanceGateError)
  /-- A realm ran out of handles. -/
  | exhausted
deriving DecidableEq, Inhabited

namespace CommandError

/-- What the command was doing, or the error itself where that says enough. -/
def message : CommandError → String
  | usage e => e.message
  | loadingConfig path _ => "loading realm config " ++ path
  | runningManifest path _ => "running " ++ path
  | creatingDirectory e => e.message
  | writing path _ => "writing " ++ path
  | renamingTo path _ => "renaming to " ++ path
  | gate e => e.message
  | exhausted => "out of object handles"

/-- The error behind the message. -/
def cause? : CommandError → Option String
  | loadingConfig _ e => some e.message
  | runningManifest _ e => some e.message
  | writing _ e => some e.message
  | renamingTo _ e => some e.message
  | _ => none

/-- The text that the command fails with. -/
def text (e : CommandError) : String :=
  "Error: " ++ e.message ++ "\n" ++
    match e.cause? with
    | some cause => "\nCaused by:\n    " ++ cause ++ "\n"
    | none => ""

end CommandError

/-! ## Evidence -/

/-- The summary line of the evidence. -/
def summaryJson (result : ConformanceRunResult) (generatedAt manifestPath : String) : Json :=
  let passes := match result.enforceGate with
    | .ok _ => true
    | .error _ => false
  .record
    ([("component", .ofString ScenarioLogEvent.componentName), ("event", .ofString "summary"),
        ("outcome", .ofString (if passes then "pass" else "fail")),
        ("error_code", if passes then .null else .ofString "OM-SCENARIO-GATE"),
        ("generated_at_utc", .ofString generatedAt), ("manifest_path", .ofString manifestPath)] ++
      result.summary.members)

/-- The lines of the evidence. -/
def evidenceLines (result : ConformanceRunResult) (generatedAt manifestPath : String) :
    List String :=
  (summaryJson result generatedAt manifestPath :: result.logs.map ScenarioLogEvent.toJson).map
    Json.render

/-- Lines as the content of a file. -/
def linesText (lines : List String) : String := String.join (lines.map (· ++ "\n"))

/-! ## Reports -/

/-- The report on a failed scenario. -/
def failureLine (e : ScenarioLogEvent) : String :=
  "descriptor failure scenario=" ++ e.scenarioId ++ " step=" ++ e.failedStep.getD "-" ++
    " detail=" ++ e.errorDetail.getD "-"

/-- The report on a run. -/
def reportLines (result : ConformanceRunResult) (evidencePath : String) : List String :=
  let line (name value : String) : String := "descriptor " ++ name ++ "=" ++ value
  [line "run_id" result.runId, line "manifest_hash" result.manifestHash,
    line "evidence" evidencePath, line "total" (Nat.repr result.summary.totalScenarios),
    line "passed" (Nat.repr result.summary.passed), line "failed" (Nat.repr result.summary.failed),
    line "errored" (Nat.repr result.summary.errored)] ++ result.failures.map failureLine

/-- What the command reports and whether it fails. -/
structure CommandReport where
  lines : List String
  error : Option CommandError
deriving DecidableEq, Inhabited

namespace CommandReport

def exitCode (r : CommandReport) : UInt32 := if r.error.isSome then 1 else 0

def standardOutput (r : CommandReport) : String := linesText r.lines

def standardError (r : CommandReport) : String := (r.error.map CommandError.text).getD ""

end CommandReport

/-! ## The command itself -/

section Command

variable {m : Type → Type} [Monad m] (store : FileStore m)

/-- The content of a file, if there is one; a file that cannot be read counts as no text. -/
def configContent (path : String) : m (Except ConfigError (Option ByteArray)) := do
  if ← store.pathExists path then
    match ← store.read path with
    | .ok bytes => return .ok (some bytes)
    | .error _ => return .error .io
  else return .ok none

/-- The configuration that the settings ask for. -/
def loadConfig (settings : Settings) : ExceptT CommandError m RealmConfig := do
  match settings.config with
  | none => return {}
  | some path =>
    let content ← ExceptT.lift (configContent store path)
    match content.bind RealmConfig.ofFile with
    | .ok config => return config
    | .error e => throw (.loadingConfig path e)

/-- The result of running the manifest that the settings ask for. -/
def runManifest (settings : Settings) (config : RealmConfig) :
    ExceptT CommandError m ConformanceRunResult := do
  let path := settings.manifest
  let content ← ExceptT.lift (store.read path)
  match ScenarioManifest.ofFile content.toOption with
  | .error e => throw (.runningManifest path e)
  | .ok manifest =>
    match manifest.run config with
    | some result => return result
    | none => throw .exhausted

/-- Fails with an error of a file operation. -/
def orFail {α : Type} (wrap : FileError → CommandError) (action : m (Except FileError α)) :
    ExceptT CommandError m α := do
  match ← ExceptT.lift action with
  | .ok a => return a
  | .error e => throw (wrap e)

/-- Writes the evidence of a run under another name first, so that it is there as a whole or not at
all; its path. -/
def writeEvidence (settings : Settings) (result : ConformanceRunResult) :
    ExceptT CommandError m String := do
  let directory := joinPath settings.outputRoot result.runId
  let temporary := joinPath directory "descriptor_conformance_evidence.tmp"
  let path := joinPath directory "descriptor_conformance_evidence.jsonl"
  orFail .creatingDirectory (store.createDirectories directory)
  let now ← ExceptT.lift store.now
  let lines := evidenceLines result now settings.manifest
  orFail (.writing temporary) (store.write temporary (linesText lines).toUTF8)
  orFail (.renamingTo path) (store.rename temporary path)
  return path

/-- Everything up to the report. -/
def produce (arguments : List String) (home : String) :
    ExceptT CommandError m (ConformanceRunResult × String) := do
  match (Settings.standard home).ofArguments arguments with
  | .error e => throw (.usage e)
  | .ok settings =>
    let config ← loadConfig store settings
    let result ← runManifest store settings config
    let path ← writeEvidence store settings result
    return (result, path)

/-- Runs the command with some arguments.  Its sources are in the directory `home`; if it is not
told which one that is, they are where it works. -/
def run (arguments : List String) (home : String := "") : m CommandReport := do
  match ← (produce store arguments home).run with
  | .error e => return ⟨[], some e⟩
  | .ok (result, path) =>
    let error := match result.enforceGate with
      | .ok _ => none
      | .error e => some (.gate e)
    return ⟨reportLines result path, error⟩

end Command

end ObjectModel.Cli
