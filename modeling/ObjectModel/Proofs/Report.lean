import ObjectModel.Proofs.Details

/-!
# The lines of a report

The report of the command is printed as lines, but nothing is escaped in them, so a record falls
into as many lines as its text has (`isLines_linesText_linesOf`).  The seven lines on the run as a
whole are always one line each (`oneLine_summaryLines`).  The record of a failed scenario is one
line exactly if the id of the scenario and the detail of the failed step are
(`oneLine_failureLine`), which the scenario is to blame for if they are not
(`Scenario.StopsAt.oneLine_detail`).
-/

namespace ObjectModel

/-! ## Lines of a text -/

namespace Cli

/-- The lines that a text falls into. -/
def linesOf (text : String) : List String := (text.toList.splitOn '\n').map String.ofList

theorem length_splitOn {α : Type} [DecidableEq α] (separator : α) (xs : List α) :
    (xs.splitOn separator).length = xs.count separator + 1 := by
  induction xs with
  | nil => rfl
  | cons x xs ih =>
    rw [List.splitOn_cons_eq_if_modifyHead]
    split
    · next same => simp [ih, eq_of_beq same]
    · next differs => simp [ih, List.count_cons, differs]

theorem length_linesOf (text : String) : (linesOf text).length = text.toList.count '\n' + 1 := by
  rw [linesOf, List.length_map, length_splitOn]

theorem linesOf_of_oneLine {text : String} (whole : OneLine text) : linesOf text = [text] := by
  rw [linesOf, List.splitOn_eq_singleton whole, List.map_singleton, String.ofList_toList]

theorem linesOf_append_newline (text text' : String) :
    linesOf (text ++ "\n" ++ text') = linesOf text ++ linesOf text' := by
  have parted : (text ++ "\n" ++ text').toList = text.toList ++ '\n' :: text'.toList := by simp
  rw [linesOf, parted, List.splitOn_append_cons_self, List.map_append, linesOf, linesOf]

theorem isLines_linesText_linesOf (texts : List String) :
    IsLines (linesText texts) (texts.flatMap linesOf) := by
  rw [IsLines, linesText, String.toList_join, List.flatMap_map]
  induction texts with
  | nil => rfl
  | cons text rest ih =>
    have parted : (text :: rest).flatMap (fun line => (line ++ "\n").toList) =
        text.toList ++ '\n' :: rest.flatMap fun line => (line ++ "\n").toList := by
      simp
    rw [parted, List.splitOn_append_cons_self, ih, List.flatMap_cons, List.map_append,
      List.append_assoc]
    congr 1
    simp [linesOf, Function.comp_def]

theorem IsLines.unique {text : String} {lines lines' : List String} (isLines : IsLines text lines)
    (isLines' : IsLines text lines') : lines = lines' := by
  have same := List.append_cancel_right (isLines.symm.trans isLines')
  exact List.map_injective_iff.2 (fun _ _ => String.toList_inj.1) same

/-- There are at least as many lines as there are texts, and as many exactly if each text is one
line. -/
theorem length_flatMap_linesOf (texts : List String) :
    texts.length ≤ (texts.flatMap linesOf).length ∧
      ((texts.flatMap linesOf).length = texts.length ↔ ∀ text ∈ texts, OneLine text) := by
  induction texts with
  | nil => simp
  | cons text rest ih =>
    have whole : OneLine text ↔ text.toList.count '\n' = 0 := by
      rw [OneLine, List.count_eq_zero]
    rw [List.flatMap_cons, List.length_append, length_linesOf, List.length_cons,
      List.forall_mem_cons, whole, ← ih.2]
    omega

theorem isLines_linesText_iff {texts : List String} :
    IsLines (linesText texts) texts ↔ ∀ text ∈ texts, OneLine text := by
  refine ⟨fun isLines => ?_, isLines_linesText⟩
  have same := (isLines_linesText_linesOf texts).unique isLines
  exact (length_flatMap_linesOf texts).2.1 (congrArg List.length same)

/-! ## Records of failed scenarios -/

/-- The id of the scenario and the detail of the failed step are one line each. -/
def FitsLine (entry : ScenarioLogEvent) : Prop :=
  OneLine entry.scenarioId ∧ ∀ detail, entry.errorDetail = some detail → OneLine detail

section Failures

variable {entry : ScenarioLogEvent} {s : Scenario} {config : RealmConfig}
  (accounts : entry.Accounts s config) (stopped : entry.outcome ≠ "pass")

include accounts stopped

/-- The step of a failure is named in one line, so nothing else can break its record. -/
theorem oneLine_failureLine : OneLine (failureLine entry) ↔ FitsLine entry := by
  obtain ⟨i, step, failure, -, -, -, failedStep, reports⟩ := accounts.stopped stopped
  -- the step is named by its number and its operation, which are no texts of the manifest
  have place : OneLine (Nat.repr i ++ ":" ++ step.op) := by
    have op : OneLine step.op := by
      unfold ScenarioStep.op
      split <;> decide
    simp [op]
    decide
  have shown : ∃ detail, entry.errorDetail = some detail := by
    cases failure with
    | mismatch detail | setup code detail => exact ⟨detail, reports.2.2⟩
  obtain ⟨detail, shown⟩ := shown
  have marks : OneLine "descriptor failure scenario=" ∧ OneLine " step=" ∧ OneLine " detail=" := by
    decide +kernel
  unfold failureLine FitsLine
  simp [failedStep, shown, place, marks]

theorem fitsLine_of_texts (texts : ∀ text ∈ s.texts, OneLine text) : FitsLine entry := by
  obtain ⟨i, step, failure, -, -, stops, -, reports⟩ := accounts.stopped stopped
  have whole := stops.oneLine_detail texts
  constructor
  · rw [accounts.scenario]
    exact texts s.id List.mem_cons_self
  · intro detail shown
    cases failure with
    | mismatch detail' | setup code detail' =>
      cases reports.2.2.symm.trans shown
      exact whole

end Failures

section Result

variable {result : ConformanceRunResult} {m : ScenarioManifest} {config : RealmConfig}
  (accounts : result.Accounts m config)

include accounts

/-- The entry of a failure is that of a scenario that did not pass. -/
theorem failure_inv {entry : ScenarioLogEvent} (failed : entry ∈ result.failures) :
    entry.outcome ≠ "pass" ∧ ∃ k s, m.scenarios[k]? = some s ∧ result.logs[k]? = some entry ∧
      entry.Accounts s { config with tracePrefix := ScenarioManifest.traceId config k } := by
  obtain ⟨member, stopped⟩ := List.mem_filter.1 failed
  obtain ⟨k, bound, rfl⟩ := List.getElem_of_mem member
  have bound' : k < m.scenarios.length := by rwa [accounts.length] at bound
  obtain ⟨entry, logged, accounts⟩ := accounts.entries k _ (List.getElem?_eq_getElem bound')
  obtain ⟨_, rfl⟩ := List.getElem?_eq_some_iff.1 logged
  exact ⟨by simpa using stopped, k, _, List.getElem?_eq_getElem bound', logged, accounts⟩

theorem length_failures :
    result.failures.length = result.summary.failed + result.summary.errored := by
  have parted := List.length_eq_length_filter_add (l := result.logs) (·.outcome = "pass")
  have passed := accounts.counts.1
  have total := accounts.total.2
  rw [accounts.length] at parted
  have failures : result.failures =
      result.logs.filter fun entry => !decide (entry.outcome = "pass") := rfl
  rw [failures]
  omega

/-- The scenarios that did not pass are reported in the order of the manifest. -/
theorem failures_sublist :
    (result.failures.map (·.scenarioId)).Sublist (m.scenarios.map (·.id)) := by
  -- the log has the ids of the manifest one by one, and the failures are what a filter leaves of it
  have ids : result.logs.map (·.scenarioId) = m.scenarios.map (·.id) := by
    refine List.ext_getElem? fun k => ?_
    rw [List.getElem?_map, List.getElem?_map]
    cases atK : m.scenarios[k]? with
    | none =>
      rw [List.getElem?_eq_none_iff, ← accounts.length, ← List.getElem?_eq_none_iff] at atK
      rw [atK]
      rfl
    | some s =>
      obtain ⟨entry, logged, accounts⟩ := accounts.entries k s atK
      rw [logged, Option.map_some, accounts.scenario]
      rfl
  rw [← ids]
  exact List.filter_sublist.map _

end Result

/-! ## The run as a whole -/

/-- A name with its value. -/
def namedLine (name value : String) : String := "descriptor " ++ name ++ "=" ++ value

/-- The report on the run as a whole. -/
def summaryLines (result : ConformanceRunResult) (evidencePath : String) : List String :=
  [namedLine "run_id" result.runId, namedLine "manifest_hash" result.manifestHash,
    namedLine "evidence" evidencePath, namedLine "total" (Nat.repr result.summary.totalScenarios),
    namedLine "passed" (Nat.repr result.summary.passed),
    namedLine "failed" (Nat.repr result.summary.failed),
    namedLine "errored" (Nat.repr result.summary.errored)]

theorem reportLines_eq (result : ConformanceRunResult) (evidencePath : String) :
    reportLines result evidencePath =
      summaryLines result evidencePath ++ result.failures.map failureLine :=
  rfl

theorem oneLine_hexDigest (text : String) : OneLine (Sha256.hexDigest text) := by
  have digits : ∀ n < 16, '\n' ≠ Text.hexDigit n := by decide
  rw [Sha256.hexDigest, Sha256.hexText, oneLine_ofList]
  simp only [List.mem_flatMap, not_exists, not_and]
  intro b _ member
  have small := b.toNat_lt
  simp [digits (b.toNat / 16) (by omega), digits (b.toNat % 16) (by omega)] at member

theorem oneLine_joinPath {path name : String} (directory : OneLine path) (named : OneLine name) :
    OneLine (joinPath path name) := by
  have slash : OneLine "/" := by decide
  unfold joinPath
  split
  · exact named
  · split <;> simp [directory, named, slash]

theorem oneLine_namedLine {name value : String} (named : OneLine name) (shown : OneLine value) :
    OneLine (namedLine name value) := by
  have marks : OneLine "descriptor " ∧ OneLine "=" := by decide
  simp [namedLine, named, shown, marks]

section Summary

variable {hash : String} (hexadecimal : OneLine hash) (t : RunTally)

include hexadecimal

theorem oneLine_runId : OneLine (ConformanceRunResult.ofTally hash t).runId := by
  have part : OneLine (String.ofList (hash.toList.take 12)) :=
    oneLine_ofList.2 fun member => hexadecimal (List.mem_of_mem_take member)
  exact oneLine_append.2 ⟨by decide, part⟩

theorem oneLine_summaryLines {path : String} (located : OneLine path) :
    ∀ line ∈ summaryLines (.ofTally hash t) path, OneLine line := by
  have run := oneLine_runId hexadecimal t
  simp only [summaryLines, List.forall_mem_cons]
  exact ⟨oneLine_namedLine (by decide) run, oneLine_namedLine (by decide) hexadecimal,
    oneLine_namedLine (by decide) located, oneLine_namedLine (by decide) (oneLine_repr _),
    oneLine_namedLine (by decide) (oneLine_repr _), oneLine_namedLine (by decide) (oneLine_repr _),
    oneLine_namedLine (by decide) (oneLine_repr _), nofun⟩

end Summary

theorem writeEvidence_path {settings : Settings} {result : ConformanceRunResult} {path now : String}
    {t t' : FileTree}
    (yields : Yields (writeEvidence (FileTree.store now) settings result) t path t') :
    path = joinPath (joinPath settings.outputRoot result.runId)
      "descriptor_conformance_evidence.jsonl" := by
  unfold writeEvidence at yields
  obtain ⟨_, t₁, -, rest⟩ := bind_yields yields
  obtain ⟨_, t₂, -, rest⟩ := bind_yields rest
  obtain ⟨_, t₃, -, rest⟩ := bind_yields rest
  obtain ⟨_, t₄, -, done⟩ := bind_yields rest
  cases done
  rfl

theorem produce_path {arguments : List String} {home now path : String}
    {result : ConformanceRunResult} {t t' : FileTree}
    (yields : Yields (produce (FileTree.store now) arguments home) t (result, path) t') :
    ∃ settings, (Settings.standard home).ofArguments arguments = .ok settings ∧
      path = joinPath (joinPath settings.outputRoot result.runId)
        "descriptor_conformance_evidence.jsonl" := by
  unfold produce at yields
  split at yields
  · cases yields
  · next settings asked =>
    obtain ⟨_, t₁, -, runs⟩ := bind_yields yields
    obtain ⟨_, t₂, -, evidence⟩ := bind_yields runs
    obtain ⟨_, t₃, written, done⟩ := bind_yields evidence
    cases done
    exact ⟨settings, asked, writeEvidence_path written⟩

section Produced

variable {arguments : List String} {home now path : String} {result : ConformanceRunResult}
  {t t' : FileTree}
  (yields : Yields (produce (FileTree.store now) arguments home) t (result, path) t')

include yields

theorem standardOutput_of_produce :
    ((run (FileTree.store now) arguments home).run t).1.standardOutput =
      linesText (reportLines result path) := by
  rw [run_eq, yields]
  rfl

theorem oneLine_summaryLines_of_produce {settings : Settings}
    (asked : (Settings.standard home).ofArguments arguments = .ok settings)
    (root : OneLine settings.outputRoot) : ∀ line ∈ summaryLines result path, OneLine line := by
  obtain ⟨_, config, m, -, -, -, -, ends, -⟩ := produce_yields yields
  obtain ⟨_, asked', located⟩ := produce_path yields
  cases asked.symm.trans asked'
  have hexadecimal : OneLine m.contentHash := oneLine_hexDigest m.canonicalText
  obtain ⟨tally, -, rfl⟩ := ScenarioManifest.run_inv ends
  apply oneLine_summaryLines hexadecimal
  rw [located]
  exact oneLine_joinPath (oneLine_joinPath root (oneLine_runId hexadecimal tally))
    (by decide +kernel)

end Produced

/-- What a reader finds who splits the output for a result into lines. -/
structure Shows (output : String) (result : ConformanceRunResult) (evidencePath : String) :
    Prop where
  /-- The lines on the run as a whole are as they were printed; after them each record has fallen
  into lines. -/
  lines : IsLines output (summaryLines result evidencePath ++
    result.failures.flatMap fun entry => linesOf (failureLine entry))
  /-- There is one record for each line exactly if all failures fit. -/
  records : IsLines output (summaryLines result evidencePath ++ result.failures.map failureLine) ↔
    ∀ entry ∈ result.failures, FitsLine entry
  /-- The lines behind the first seven are at least as many as the failures, and exactly as many
  if all failures fit. -/
  count : ∀ found, IsLines output found →
    7 + (result.summary.failed + result.summary.errored) ≤ found.length ∧
      (found.length = 7 + (result.summary.failed + result.summary.errored) ↔
        ∀ entry ∈ result.failures, FitsLine entry)

theorem shows_reportLines {result : ConformanceRunResult} {m : ScenarioManifest}
    {config : RealmConfig} (accounts : result.Accounts m config) {path : String}
    (whole : ∀ line ∈ summaryLines result path, OneLine line) :
    Shows (linesText (reportLines result path)) result path := by
  have records : (∀ text ∈ result.failures.map failureLine, OneLine text) ↔
      ∀ entry ∈ result.failures, FitsLine entry := by
    rw [List.forall_mem_map]
    refine forall₂_congr fun entry failed => ?_
    obtain ⟨stopped, k, s, -, -, accounts⟩ := failure_inv accounts failed
    exact oneLine_failureLine accounts stopped
  have intact : (summaryLines result path).flatMap linesOf = summaryLines result path := by
    rw [List.flatMap_congr fun line member => linesOf_of_oneLine (whole line member)]
    simp
  have length : (reportLines result path).length =
      7 + (result.summary.failed + result.summary.errored) := by
    rw [reportLines_eq, List.length_append, List.length_map, length_failures accounts]
    rfl
  have each : (∀ line ∈ reportLines result path, OneLine line) ↔
      ∀ entry ∈ result.failures, FitsLine entry := by
    rw [reportLines_eq, List.forall_mem_append, records]
    exact and_iff_right whole
  have fallen := isLines_linesText_linesOf (reportLines result path)
  exact
    { lines := by
        have lines := fallen
        rwa [reportLines_eq, List.flatMap_append, intact, List.flatMap_map] at lines
      records := by rw [← reportLines_eq, isLines_linesText_iff, each]
      count := by
        intro found isLines
        obtain ⟨atLeast, exactly⟩ := length_flatMap_linesOf (reportLines result path)
        rw [← length, isLines.unique fallen, ← each]
        exact ⟨atLeast, exactly⟩ }

/-! ### Two failures that look like three -/

/-- The text of a manifest with two scenarios that fail.  The id of the second one goes on behind a
line feed like the record of a third. -/
def forgedText : String :=
  "[\"descriptor-engine.object-model-scenarios.v1\"," ++
    "[[\"a\",\"\",[[\"expect_cell\",\"x\",\"null\"]]]," ++
    "[\"b\\ndescriptor failure scenario=c\",\"\",[[\"expect_cell\",\"x\",\"null\"]]]]]"

def forgedScenarios : List Scenario :=
  [⟨"a", "", [.expectCell "x" .null]⟩,
    ⟨"b\ndescriptor failure scenario=c", "", [.expectCell "x" .null]⟩]

def forgedFiles : FileTree := ⟨[], [(["m"], forgedText.toUTF8)], []⟩

def forgedArguments : List String := ["--manifest", "m", "--output-root", ""]

/-- What the record of each of the two says behind the id. -/
def undefinedCell : String := " step=0:expect_cell detail=cell `x` is undefined, expected null"

/-- The lines of the two records. -/
def forgedLines : List String :=
  ["descriptor failure scenario=a" ++ undefinedCell, "descriptor failure scenario=b",
    "descriptor failure scenario=c" ++ undefinedCell]

theorem ok_of_toOption_map {ε α γ σ : Type} {ended : Except ε α × σ} {f : α → γ} {b : γ}
    (shown : ended.1.toOption.map f = some b) : ∃ a s, ended = (.ok a, s) ∧ f a = b := by
  obtain ⟨result, s⟩ := ended
  cases result with
  | error e => cases shown
  | ok a => exact ⟨a, s, rfl, Option.some.inj shown⟩

theorem forged_produced : ∃ result path t',
    (produce (FileTree.store "now") forgedArguments "").run.run forgedFiles =
      (.ok (result, path), t') ∧
    result.summary.failed = 2 ∧ result.summary.errored = 0 ∧ result.failures.length = 2 ∧
    (result.failures.flatMap fun entry => linesOf (failureLine entry)) = forgedLines := by
  -- the whole command is evaluated once, with the digest that names the directory
  have ran : ((produce (FileTree.store "now") forgedArguments "").run.run
      forgedFiles).1.toOption.map (fun (result, _) => (result.summary.failed,
        result.summary.errored, result.failures.map failureLine)) = some (2, 0,
          ["descriptor failure scenario=a" ++ undefinedCell, "descriptor failure scenario=b" ++
            "\n" ++ ("descriptor failure scenario=c" ++ undefinedCell)]) := by
    decide +kernel
  obtain ⟨⟨result, path⟩, t', produced, shown⟩ := ok_of_toOption_map ran
  obtain ⟨failed, shown⟩ := Prod.mk.inj shown
  obtain ⟨errored, failures⟩ := Prod.mk.inj shown
  have two := congrArg List.length failures
  rw [List.length_map] at two
  refine ⟨result, path, t', produced, failed, errored, two, ?_⟩
  have whole : ∀ line ∈ forgedLines, OneLine line := by decide +kernel
  simp only [forgedLines, List.forall_mem_cons] at whole
  obtain ⟨first, second, third, -⟩ := whole
  rw [← List.flatMap_map, failures]
  simp only [List.flatMap_cons, List.flatMap_nil, linesOf_append_newline,
    linesOf_of_oneLine first, linesOf_of_oneLine second, linesOf_of_oneLine third]
  rfl

/-! ### Any report -/

/-- The report of a command whose output root has no line feed begins with seven lines on the run as
a whole, and then has the record of each failure in the order of the manifest.  A record is printed
as it is, so there is one record for each line exactly if the ids and the details of the failures
have no line feed; otherwise there are more lines than records.  A scenario whose texts have no line
feed fits in any case, so a manifest of such scenarios is reported with one record for each line. -/
theorem records_break_at_line_feeds {now : String} {arguments : List String} {home : String}
    {t t' : FileTree} {settings : Settings} {result : ConformanceRunResult} {path : String}
    (asked : (Settings.standard home).ofArguments arguments = .ok settings)
    (root : OneLine settings.outputRoot)
    (yields : (produce (FileTree.store now) arguments home).run.run t = (.ok (result, path), t')) :
    ∃ m config, ScenarioManifest.ofFile (t.read settings.manifest).toOption = .ok m ∧
      m.fault? = none ∧ config.fault? = none ∧ m.run config = some result ∧
      result.summary.totalScenarios = m.scenarios.length ∧
      result.failures.length = result.summary.failed + result.summary.errored ∧
      (result.failures.map (·.scenarioId)).Sublist (m.scenarios.map (·.id)) ∧
      Shows ((run (FileTree.store now) arguments home).run t).1.standardOutput result path ∧
      (∀ (k : Nat) (s : Scenario) (entry : ScenarioLogEvent), m.scenarios[k]? = some s →
        result.logs[k]? = some entry → entry ∈ result.failures →
        (∀ text ∈ s.texts, OneLine text) → FitsLine entry) ∧
      ((∀ s ∈ m.scenarios, ∀ text ∈ s.texts, OneLine text) →
        IsLines ((run (FileTree.store now) arguments home).run t).1.standardOutput
          (summaryLines result path ++ result.failures.map failureLine)) := by
  obtain ⟨_, config, m, asked', accepted, valid, validConfig, ends, -⟩ := produce_yields yields
  cases asked.symm.trans asked'
  have accounts := ScenarioManifest.run_accounts ends
  have fits : ∀ (k : Nat) (s : Scenario) (entry : ScenarioLogEvent), m.scenarios[k]? = some s →
      result.logs[k]? = some entry → entry ∈ result.failures →
      (∀ text ∈ s.texts, OneLine text) → FitsLine entry := by
    intro k s entry atK logged failed texts
    obtain ⟨entry', logged', accounts⟩ := accounts.entries k s atK
    cases logged.symm.trans logged'
    exact fitsLine_of_texts accounts (by simpa using (List.mem_filter.1 failed).2) texts
  have shows := shows_reportLines accounts (oneLine_summaryLines_of_produce yields asked root)
  rw [standardOutput_of_produce yields]
  refine ⟨m, config, accepted, valid, validConfig, ends, accounts.total.1, length_failures accounts,
    failures_sublist accounts, shows, fits, fun texts => shows.records.2 fun entry failed => ?_⟩
  obtain ⟨-, k, s, atK, logged, -⟩ := failure_inv accounts failed
  exact fits k s entry atK logged failed (texts s (List.mem_of_getElem? atK))

/-- The first of the two failures fits its line, since its scenario has no line feed; the record of
the second falls into two lines. -/
theorem lines_of_forged_report :
    ∃ settings result path t', (Settings.standard "").ofArguments forgedArguments = .ok settings ∧
      OneLine settings.outputRoot ∧
      (produce (FileTree.store "now") forgedArguments "").run.run forgedFiles =
        (.ok (result, path), t') ∧
      IsLines ((run (FileTree.store "now") forgedArguments "").run forgedFiles).1.standardOutput
        (summaryLines result path ++ forgedLines) ∧
      ∀ entry ∈ result.failures, result.logs[0]? = some entry → FitsLine entry := by
  obtain ⟨result, path, t', produced, -, -, -, lines⟩ := forged_produced
  obtain ⟨settings, asked, manifest, root⟩ : ∃ settings,
      (Settings.standard "").ofArguments forgedArguments = .ok settings ∧ settings.manifest = "m" ∧
        settings.outputRoot = "" := ⟨_, rfl, rfl, rfl⟩
  have outputRoot : OneLine settings.outputRoot := by
    rw [root]
    decide
  obtain ⟨m, config, accepted, -, -, -, -, -, -, shows, fits, -⟩ :=
    records_break_at_line_feeds asked outputRoot produced
  have read : ScenarioManifest.ofFile (forgedFiles.read "m").toOption =
      .ok ⟨ScenarioManifest.currentSchema, forgedScenarios⟩ := by decide +kernel
  rw [manifest, read] at accepted
  cases accepted
  refine ⟨settings, result, path, t', asked, outputRoot, produced, ?_, ?_⟩
  · rw [← lines]
    exact shows.lines
  · exact fun entry failed logged => fits 0 _ entry rfl logged failed (by decide)

/-- Two scenarios have failed, but three lines of the report look like failures. -/
theorem forged_report_has_three_records :
    ∃ result path t', (produce (FileTree.store "now") forgedArguments "").run.run forgedFiles =
        (.ok (result, path), t') ∧
      result.summary.failed = 2 ∧ result.summary.errored = 0 ∧ result.failures.length = 2 ∧
      (∀ lines, IsLines
          ((run (FileTree.store "now") forgedArguments "").run forgedFiles).1.standardOutput lines →
        lines.length = 10 ∧ lines.drop 7 = forgedLines) ∧
      ¬ IsLines ((run (FileTree.store "now") forgedArguments "").run forgedFiles).1.standardOutput
        (summaryLines result path ++ result.failures.map failureLine) := by
  obtain ⟨result, path, t', produced, failed, errored, two, three⟩ := forged_produced
  have whole := oneLine_summaryLines_of_produce produced rfl (by decide)
  obtain ⟨_, config, m, -, -, -, -, ends, -⟩ := produce_yields produced
  have shows := shows_reportLines (ScenarioManifest.run_accounts ends) whole
  rw [← standardOutput_of_produce produced] at shows
  have isLines := shows.lines
  rw [three] at isLines
  refine ⟨result, path, t', produced, failed, errored, two, ?_, ?_⟩
  · intro lines fallen
    rw [fallen.unique isLines]
    exact ⟨rfl, rfl⟩
  · intro records
    -- the three lines behind the first seven would be the two records
    have same := congrArg List.length (List.append_cancel_left (isLines.unique records))
    rw [List.length_map, two] at same
    exact absurd same (by decide)

end Cli

end ObjectModel
