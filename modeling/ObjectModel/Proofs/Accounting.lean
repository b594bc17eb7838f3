import ObjectModel.Proofs.Verdicts

/-!
# Run accounting

The log entry of a scenario says how far its steps went (`ScenarioLogEvent.Accounts`).  A run counts
the scenarios while it logs them: each verdict raises the counter of the outcome that its entry
shows (`RunTally.Counts.add`), so the summary counts the entries, and gate, list of failures and
number of passed scenarios agree (`ConformanceRunResult.Accounts`).
-/

namespace ObjectModel

namespace Scenario

variable {s : Scenario} {config : RealmConfig} {i : Nat} {names names' : Names}
  {w w' : World ScenarioFunction Cells}

/-- The step at a position begins and succeeds. -/
def Succeeds (s : Scenario) (config : RealmConfig) (i : Nat) : Prop :=
  ∃ names w step names' w', s.Begins config i names w ∧ s.steps[i]? = some step ∧
    (step.execute names).run.run ScenarioFunction.run 1 w = some (.ok (.ok names'), w')

/-! ## How far the steps go -/

theorem Begins.unique (begins : s.Begins config i names w) (begins' : s.Begins config i names' w') :
    names = names' ∧ w = w' := by
  induction begins generalizing names' w' with
  | first =>
    cases begins'
    exact ⟨rfl, rfl⟩
  | next begins current ends ih =>
    cases begins' with
    | next before current' ends' =>
      obtain ⟨rfl, rfl⟩ := ih before
      cases current.symm.trans current'
      cases ends.symm.trans ends'
      exact ⟨rfl, rfl⟩

theorem Begins.succeeds (begins : s.Begins config i names w) :
    ∀ j < i, s.Succeeds config j := by
  induction begins with
  | first => exact nofun
  | @next i names w step names' w' begins current ends ih =>
    intro j before
    obtain earlier | rfl := Nat.lt_succ_iff_lt_or_eq.1 before
    · exact ih j earlier
    · exact ⟨names, w, step, names', w', begins, current, ends⟩

/-- The step that stops a scenario is the first that does not succeed. -/
theorem StopsAt.first_failure {step : ScenarioStep} {failure : StepFailure}
    (stops : s.StopsAt config i step failure) :
    i < s.steps.length ∧ (∀ j < i, s.Succeeds config j) ∧ ¬ s.Succeeds config i := by
  cases stops with
  | failed begins current ends =>
    refine ⟨(List.getElem?_eq_some_iff.1 current).1, begins.succeeds, ?_⟩
    rintro ⟨_, _, _, _, _, begins', current', ends'⟩
    obtain ⟨rfl, rfl⟩ := begins.unique begins'
    cases current.symm.trans current'
    cases ends.symm.trans ends'
  | threw begins current ends =>
    refine ⟨(List.getElem?_eq_some_iff.1 current).1, begins.succeeds, ?_⟩
    rintro ⟨_, _, _, _, _, begins', current', ends'⟩
    obtain ⟨rfl, rfl⟩ := begins.unique begins'
    cases current.symm.trans current'
    cases ends.symm.trans ends'

end Scenario

/-! ## Log entries -/

/-- The entry shows what stopped the scenario. -/
def ScenarioLogEvent.Reports (entry : ScenarioLogEvent) : StepFailure → Prop
  | .mismatch detail =>
    entry.outcome = "fail" ∧ entry.errorCode = some StepFailure.mismatchCode ∧
      entry.errorDetail = some detail
  | .setup code detail =>
    entry.outcome = "error" ∧ entry.errorCode = some code ∧ entry.errorDetail = some detail

/-- The entry says how far the steps of a scenario went. -/
structure ScenarioLogEvent.Accounts (entry : ScenarioLogEvent) (s : Scenario)
    (config : RealmConfig) : Prop where
  scenario : entry.scenarioId = s.id
  succeeds : entry.outcome = "pass" ↔ ∀ i < s.steps.length, s.Succeeds config i
  passed : entry.outcome = "pass" ↔
    entry.stepsRun = s.steps.length ∧ entry.failedStep = none ∧ entry.errorCode = none
  stopped : entry.outcome ≠ "pass" → ∃ i step failure, entry.stepsRun = i + 1 ∧
    (∀ j < i, s.Succeeds config j) ∧ s.StopsAt config i step failure ∧
    entry.failedStep = some (Nat.repr i ++ ":" ++ step.op) ∧ entry.Reports failure

namespace ScenarioLogEvent

theorem ofVerdict_reports (traceId scenarioId place : String) (stepsRun : Nat)
    (failure : StepFailure) (realmEvents : Nat) :
    (ofVerdict traceId scenarioId ⟨stepsRun, some (place, failure)⟩ realmEvents).Reports
      failure := by
  cases failure <;> exact ⟨rfl, rfl, rfl⟩

theorem Reports.not_passed {entry : ScenarioLogEvent} {failure : StepFailure}
    (reports : entry.Reports failure) : entry.outcome ≠ "pass" ∧ entry.errorCode ≠ none := by
  cases failure with
  | mismatch detail | setup code detail =>
    obtain ⟨outcome, code, -⟩ := reports
    rw [outcome, code]
    exact ⟨by decide, nofun⟩

theorem ofVerdict_accounts {s : Scenario} {config : RealmConfig} {verdict : Verdict}
    (earned : s.Earns config verdict) (traceId : String) (realmEvents : Nat) :
    (ofVerdict traceId s.id verdict realmEvents).Accounts s config := by
  cases earned with
  | passed begins =>
    exact
      { scenario := rfl
        succeeds := iff_of_true rfl begins.succeeds
        passed := iff_of_true rfl ⟨rfl, rfl, rfl⟩
        stopped := fun stopped => absurd rfl stopped }
  | @stopped i step failure stops =>
    -- an entry with an error code is not that of a scenario whose steps were all run
    have reports := ofVerdict_reports traceId s.id (Nat.repr i ++ ":" ++ step.op) (i + 1) failure
      realmEvents
    obtain ⟨notPassed, coded⟩ := reports.not_passed
    obtain ⟨current, before, fails⟩ := stops.first_failure
    have shown : (ofVerdict traceId s.id ⟨i + 1, some (Nat.repr i ++ ":" ++ step.op, failure)⟩
        realmEvents).scenarioId = s.id ∧
      (ofVerdict traceId s.id ⟨i + 1, some (Nat.repr i ++ ":" ++ step.op, failure)⟩
        realmEvents).stepsRun = i + 1 ∧
      (ofVerdict traceId s.id ⟨i + 1, some (Nat.repr i ++ ":" ++ step.op, failure)⟩
        realmEvents).failedStep = some (Nat.repr i ++ ":" ++ step.op) := by
      cases failure <;> exact ⟨rfl, rfl, rfl⟩
    obtain ⟨scenario, stepsRun, failedStep⟩ := shown
    exact
      { scenario
        succeeds := iff_of_false notPassed fun all => fails (all i current)
        passed := iff_of_false notPassed fun shown => coded shown.2.2
        stopped := fun _ => ⟨i, step, failure, stepsRun, before, stops, failedStep, reports⟩ }

end ScenarioLogEvent

theorem Scenario.run_accounts {s : Scenario} {config : RealmConfig} {entry : ScenarioLogEvent}
    (ends : s.run config = some entry) : entry.Accounts s config := by
  obtain ⟨verdict, realmEvents, earned, rfl⟩ := run_inv ends
  exact ScenarioLogEvent.ofVerdict_accounts earned _ _

/-! ## Counters -/

/-- Each counter is the number of entries with its outcome, and no entry is left out. -/
structure RunTally.Counts (t : RunTally) : Prop where
  passed : t.passed = (t.logs.toList.filter (·.outcome = "pass")).length
  failed : t.failed = (t.logs.toList.filter (·.outcome = "fail")).length
  errored : t.errored = (t.logs.toList.filter (·.outcome = "error")).length
  total : t.passed + t.failed + t.errored = t.logs.size

namespace RunTally

theorem Counts.empty : ({} : RunTally).Counts := ⟨rfl, rfl, rfl, rfl⟩

/-- A verdict raises the counter of the outcome that its entry shows. -/
theorem Counts.add {t : RunTally} (counts : t.Counts) (traceId scenarioId : String)
    (verdict : Verdict) (realmEvents : Nat) :
    (t.add traceId scenarioId verdict realmEvents).Counts := by
  obtain ⟨passed, failed, errored, total⟩ := counts
  obtain ⟨stepsRun, failure⟩ := verdict
  -- the counter and the outcome of the entry go by the same three cases
  match failure with
  | none | some (place, .mismatch detail) | some (place, .setup code detail) =>
    constructor
    case total =>
      simp only [RunTally.add, Array.size_push, ← total]
      omega
    all_goals simp [RunTally.add, ScenarioLogEvent.ofVerdict, ← passed, ← failed, ← errored]

theorem Counts.runScenarios {config : RealmConfig} {position : Nat} {t t' : RunTally}
    (counts : t.Counts) {scenarios : List Scenario}
    (ends : ScenarioManifest.runScenarios config position t scenarios = some t') : t'.Counts := by
  induction scenarios generalizing position t with
  | nil =>
    cases ends
    exact counts
  | cons s rest ih =>
    obtain ⟨verdict, realmEvents, -, ends⟩ :=
      ScenarioManifest.runScenarios_cons_eq_some_iff.1 ends
    exact ih (counts.add _ _ verdict realmEvents) ends

end RunTally

/-! ## Results -/

/-- The result of a run has an entry for every scenario in order, its summary counts the entries,
and gate and failures go by these numbers. -/
structure ConformanceRunResult.Accounts (result : ConformanceRunResult) (m : ScenarioManifest)
    (config : RealmConfig) : Prop where
  length : result.logs.length = m.scenarios.length
  entries : ∀ (k : Nat) (s : Scenario), m.scenarios[k]? = some s →
    ∃ entry, result.logs[k]? = some entry ∧
      entry.Accounts s { config with tracePrefix := ScenarioManifest.traceId config k }
  counts : result.summary.passed = (result.logs.filter (·.outcome = "pass")).length ∧
    result.summary.failed = (result.logs.filter (·.outcome = "fail")).length ∧
    result.summary.errored = (result.logs.filter (·.outcome = "error")).length
  total : result.summary.totalScenarios = m.scenarios.length ∧
    result.summary.passed + result.summary.failed + result.summary.errored = m.scenarios.length
  gate : result.enforceGate = .ok () ↔ result.failures = []
  failures : result.failures = [] ↔ result.summary.passed = m.scenarios.length

namespace ConformanceRunResult

theorem failures_eq_nil {r : ConformanceRunResult} :
    r.failures = [] ↔ ∀ e ∈ r.logs, e.outcome = "pass" := by
  simp [failures]

theorem enforceGate_eq_ok {r : ConformanceRunResult} :
    r.enforceGate = .ok () ↔ r.summary.failed = 0 ∧ r.summary.errored = 0 := by
  unfold enforceGate
  split
  · next failed => simp; omega
  · next passed => simp; omega

end ConformanceRunResult

namespace ScenarioManifest

theorem run_accounts {m : ScenarioManifest} {config : RealmConfig} {result : ConformanceRunResult}
    (ends : m.run config = some result) : result.Accounts m config := by
  have entries : ∀ (k : Nat) (s : Scenario), m.scenarios[k]? = some s →
      ∃ entry, result.logs[k]? = some entry ∧
        entry.Accounts s { config with tracePrefix := traceId config k } := by
    intro k s atK
    obtain ⟨entry, logged, ran⟩ := logged_of_run ends atK
    exact ⟨entry, logged, Scenario.run_accounts ran⟩
  have length := (run_logs ends).1
  obtain ⟨t, added, rfl⟩ := run_inv ends
  have counts := RunTally.Counts.empty.runScenarios added
  have all : t.passed = t.logs.size ↔ ∀ e ∈ t.logs.toList, e.outcome = "pass" := by
    rw [counts.passed, ← Array.length_toList, List.length_filter_eq_length_iff]
    simp only [decide_eq_true_eq]
  have size : t.logs.size = m.scenarios.length := length
  exact
    { length
      entries
      counts := ⟨counts.passed, counts.failed, counts.errored⟩
      total := ⟨length, counts.total.trans size⟩
      gate := by
        rw [ConformanceRunResult.enforceGate_eq_ok, ConformanceRunResult.failures_eq_nil]
        refine Iff.trans ?_ all
        show t.failed = 0 ∧ t.errored = 0 ↔ _
        have total := counts.total
        omega
      failures := by
        rw [ConformanceRunResult.failures_eq_nil, ← size]
        exact all.symm }

end ScenarioManifest

end ObjectModel
