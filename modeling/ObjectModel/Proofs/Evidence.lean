import ObjectModel.Cli.Command
import ObjectModel.Proofs.Accounting
import ObjectModel.Proofs.FileTree
import ObjectModel.Proofs.ManifestText

/-!
# Evidence

JSON text escapes line breaks (`Json.newline_notMem_chars`), so the evidence of a run has as many
lines as there are trees to write, and each line is read as its tree (`isEvidence_evidenceLines`).
A command that produces a result has run a valid manifest, and what it leaves behind is followed
through its parts from the last one back, since each can fail (`Yields`, `bind_yields`).  Summary
line, scenario lines and exit code go by the same gate (`gate_of_accounts`, `exitCode_run`).
-/

namespace ObjectModel

/-! ## Lines -/

namespace Json

theorem newline_notMem_escapeChar (c : Char) : '\n' ∉ escapeChar c := by
  have digits : ∀ n < 16, '\n' ≠ Text.hexDigit n := by decide
  fun_cases escapeChar c with
  | case1 | case2 | case3 | case4 | case5 | case6 | case7 => decide
  | case8 =>
    rename_i control
    simp [digits (c.toNat / 16) (by omega), digits (c.toNat % 16) (by omega)]
  | case9 =>
    rename_i newline _ _ _
    simpa [eq_comm] using newline

theorem newline_notMem_stringChars (text : Option String) : '\n' ∉ stringChars text := by
  cases text with
  | none =>
    show '\n' ∉ ['"', '\\', 'u', 'd', '8', '0', '0', '"']
    decide
  | some s =>
    show '\n' ∉ '"' :: (s.toList.flatMap escapeChar ++ ['"'])
    simp [newline_notMem_escapeChar]

theorem newline_notMem_number {n : Numeral} (wellFormed : n.WellFormed) : '\n' ∉ n.chars := by
  obtain ⟨negative, whole, fraction, exponent⟩ := n
  obtain ⟨leads, fractionDigits, isExponent⟩ := wellFormed
  dsimp only at leads fractionDigits isExponent
  have digits : ∀ {cs : List Char}, AllDigits cs → '\n' ∉ cs :=
    fun all member => absurd (all _ member) (by decide)
  have marked : '\n' ∉ exponent := by
    cases isExponent with
    | absent => exact nofun
    | unmarked _ all => exact digits all
    | plus _ all | minus _ all => simpa using digits all
  simp only [Numeral.chars, List.mem_append, not_or]
  refine ⟨⟨⟨?_, digits leads.digits⟩, ?_⟩, ?_⟩
  · split <;> decide
  · split
    · exact nofun
    · simpa using digits fractionDigits
  · split
    · exact nofun
    · simpa using marked

theorem newline_notMem_items {items : List Json} (all : ∀ j ∈ items, '\n' ∉ j.chars) :
    '\n' ∉ itemsChars items := by
  induction items with
  | nil => decide
  | cons j rest ih =>
    obtain ⟨first, all⟩ := List.forall_mem_cons.1 all
    cases rest with
    | nil => simpa [itemsChars] using first
    | cons k rest => simpa [itemsChars, first] using ih all

theorem newline_notMem_members {members : List (Option String × Json)}
    (all : ∀ m ∈ members, '\n' ∉ m.2.chars) : '\n' ∉ membersChars members := by
  induction members with
  | nil => decide
  | cons m rest ih =>
    obtain ⟨first, all⟩ := List.forall_mem_cons.1 all
    cases rest with
    | nil => simpa [membersChars, newline_notMem_stringChars] using first
    | cons k rest => simpa [membersChars, newline_notMem_stringChars, first] using ih all

/-- Text of JSON is one line. -/
theorem newline_notMem_chars {j : Json} (wellFormed : j.WellFormed) : '\n' ∉ j.chars := by
  induction wellFormed with
  | null => decide
  | bool b => cases b <;> decide
  | number wellFormed => exact newline_notMem_number wellFormed
  | string text => exact newline_notMem_stringChars text
  | array _ ih => simpa [chars] using newline_notMem_items ih
  | object _ ih => simpa [chars] using newline_notMem_members ih

end Json

namespace Cli

/-- The text consists of lines. -/
def IsLines (text : String) (lines : List String) : Prop :=
  text.toList.splitOn '\n' = lines.map String.toList ++ [[]]

theorem isLines_linesText {lines : List String} (whole : ∀ line ∈ lines, '\n' ∉ line.toList) :
    IsLines (linesText lines) lines := by
  rw [IsLines, linesText, String.toList_join, List.flatMap_map]
  induction lines with
  | nil => rfl
  | cons line rest ih =>
    obtain ⟨first, whole⟩ := List.forall_mem_cons.1 whole
    have parted : (line :: rest).flatMap (fun line => (line ++ "\n").toList) =
        line.toList ++ '\n' :: rest.flatMap fun line => (line ++ "\n").toList := by
      simp
    -- the first line has no line break of its own, so it ends at the one behind it
    rw [parted, List.splitOn_append_cons_self_of_not_mem first, ih whole]
    rfl

/-! ## What the command does -/

section Command

variable {α γ : Type} {t t' : FileTree} {now : String}

/-- A part of the command ends with a value. -/
def Yields (action : ExceptT CommandError (StateM FileTree) α) (t : FileTree) (a : α)
    (t' : FileTree) : Prop :=
  action.run.run t = (.ok a, t')

theorem bind_yields {action : ExceptT CommandError (StateM FileTree) α}
    {next : α → ExceptT CommandError (StateM FileTree) γ} {c : γ}
    (yields : Yields (action >>= next) t c t') :
    ∃ a t₁, Yields action t a t₁ ∧ Yields (next a) t₁ c t' := by
  unfold Yields at yields ⊢
  rw [ExceptT.run_bind, StateT.run_bind] at yields
  cases ended : action.run.run t with
  | mk result t₁ =>
    rw [ended] at yields
    cases result with
    | error e => cases yields
    | ok a => exact ⟨a, t₁, rfl, yields⟩

theorem lift_yields {action : StateM FileTree α} {a : α}
    (yields : Yields (ExceptT.lift action) t a t') : action.run t = (a, t') := by
  unfold Yields at yields
  rw [ExceptT.run_lift, StateT.run_map] at yields
  cases ended : action.run t with
  | mk b t₁ =>
    rw [ended] at yields
    cases yields
    rfl

theorem orFail_yields {wrap : FileError → CommandError}
    {action : StateM FileTree (Except FileError α)} {a : α}
    (yields : Yields (orFail wrap action) t a t') : action.run t = (.ok a, t') := by
  obtain ⟨result, t₁, ran, yields⟩ := bind_yields yields
  rw [lift_yields ran]
  cases result with
  | error e => cases yields
  | ok a => cases yields; rfl

theorem change_run (f : FileTree → Except FileError FileTree) (t : FileTree) :
    (FileTree.store.change f).run t =
      match f t with
      | .ok t' => (.ok (), t')
      | .error e => (.error e, t) := by
  unfold FileTree.store.change
  rw [StateT.run_bind, StateT.run_get, pure_bind]
  cases f t <;> rfl

theorem change_inv {f : FileTree → Except FileError FileTree}
    (changed : (FileTree.store.change f).run t = (.ok (), t')) : f t = .ok t' := by
  rw [change_run] at changed
  split at changed
  · next t₁ ended =>
    cases changed
    exact ended
  · cases changed

theorem pathExists_run (now path : String) (t : FileTree) :
    ((FileTree.store now).pathExists path).run t = pure (t.pathExists path, t) :=
  rfl

theorem read_run (now path : String) (t : FileTree) :
    ((FileTree.store now).read path).run t = pure (t.read path, t) :=
  rfl

theorem configContent_run (now path : String) (t : FileTree) :
    ((configContent (FileTree.store now) path).run t).2 = t := by
  unfold configContent
  rw [StateT.run_bind, pathExists_run, pure_bind]
  dsimp only
  split
  · rw [StateT.run_bind, read_run, pure_bind]
    cases t.read path <;> rfl
  · rfl

theorem validConfig_of_ofFile {content : Option ByteArray} {config : RealmConfig}
    (read : RealmConfig.ofFile content = .ok config) : config.fault? = none := by
  unfold RealmConfig.ofFile at read
  split at read
  · cases read
    decide +kernel
  · split at read
    · next text _ =>
      unfold RealmConfig.ofToml at read
      split at read
      · unfold RealmConfig.validate at read
        split at read
        · cases read
        · next valid =>
          cases read
          exact valid
      · cases read
    · cases read

/-- The configuration of a run is valid, and loading it leaves the files alone. -/
theorem loadConfig_yields {settings : Settings} {config : RealmConfig}
    (yields : Yields (loadConfig (FileTree.store now) settings) t config t') :
    t' = t ∧ config.fault? = none := by
  unfold loadConfig at yields
  split at yields
  · cases yields
    exact ⟨rfl, by decide +kernel⟩
  · next path _ =>
    obtain ⟨content, t₁, ran, ends⟩ := bind_yields yields
    -- looking for the file and reading it changes nothing
    have same := configContent_run now path t
    rw [lift_yields ran] at same
    obtain rfl : t₁ = t := same
    split at ends
    · next config' read =>
      cases ends
      cases content with
      | error e => cases read
      | ok content => exact ⟨rfl, validConfig_of_ofFile read⟩
    · cases ends

theorem validManifest_of_ofFile {content : Option ByteArray} {m : ScenarioManifest}
    (accepted : ScenarioManifest.ofFile content = .ok m) : m.fault? = none := by
  unfold ScenarioManifest.ofFile at accepted
  split at accepted
  · exact (ScenarioManifest.ofText_inv accepted).1
  · cases accepted

/-- The manifest of a run is valid, and running it leaves the files alone. -/
theorem runManifest_yields {settings : Settings} {config : RealmConfig}
    {result : ConformanceRunResult}
    (yields : Yields (runManifest (FileTree.store now) settings config) t result t') :
    t' = t ∧ ∃ m, m.fault? = none ∧
      ScenarioManifest.ofFile (t.read settings.manifest).toOption = .ok m ∧
      m.run config = some result := by
  obtain ⟨content, t₁, ran, yields⟩ := bind_yields yields
  cases lift_yields ran
  split at yields
  · cases yields
  · next m accepted =>
    split at yields
    · next result' ends =>
      cases yields
      exact ⟨rfl, m, validManifest_of_ofFile accepted, accepted, ends⟩
    · cases yields

theorem writeEvidence_yields {settings : Settings} {result : ConformanceRunResult} {path : String}
    (yields : Yields (writeEvidence (FileTree.store now) settings result) t path t') :
    t'.read path = .ok (linesText (evidenceLines result now settings.manifest)).toUTF8 := by
  unfold writeEvidence at yields
  -- whichever directories there are then, only writing and renaming matter
  obtain ⟨_, t₁, -, rest⟩ := bind_yields yields
  obtain ⟨now', t₂, timed, rest⟩ := bind_yields rest
  obtain ⟨_, t₃, written, rest⟩ := bind_yields rest
  obtain ⟨_, t₄, renamed, done⟩ := bind_yields rest
  cases done
  cases lift_yields timed
  have isName : IsName "descriptor_conformance_evidence.tmp" := ⟨by decide, by decide⟩
  have isName' : IsName "descriptor_conformance_evidence.jsonl" := ⟨by decide, by decide⟩
  exact FileTree.read_replaced isName isName' (by decide) (change_inv (orFail_yields written))
    (change_inv (orFail_yields renamed))

theorem produce_yields {arguments : List String} {home : String} {result : ConformanceRunResult}
    {path : String}
    (yields : Yields (produce (FileTree.store now) arguments home) t (result, path) t') :
    ∃ settings config m, (Settings.standard home).ofArguments arguments = .ok settings ∧
      ScenarioManifest.ofFile (t.read settings.manifest).toOption = .ok m ∧ m.fault? = none ∧
      config.fault? = none ∧ m.run config = some result ∧
      t'.read path = .ok (linesText (evidenceLines result now settings.manifest)).toUTF8 := by
  unfold produce at yields
  split at yields
  · cases yields
  · next settings asked =>
    obtain ⟨config, t₁, loaded, runs⟩ := bind_yields yields
    obtain ⟨rfl, validConfig⟩ := loadConfig_yields loaded
    obtain ⟨result', t₂, ran, evidence⟩ := bind_yields runs
    obtain ⟨rfl, m, valid, accepted, ends⟩ := runManifest_yields ran
    obtain ⟨path', t₃, written, done⟩ := bind_yields evidence
    cases done
    exact ⟨settings, config, m, asked, accepted, valid, validConfig, ends,
      writeEvidence_yields written⟩

/-- The command reports on what was produced and leaves the files as they are then. -/
theorem run_eq (now : String) (arguments : List String) (home : String) (t : FileTree) :
    (run (FileTree.store now) arguments home).run t =
      match (produce (FileTree.store now) arguments home).run.run t with
      | (.error e, t') => (⟨[], some e⟩, t')
      | (.ok (result, path), t') =>
        (⟨reportLines result path, match result.enforceGate with
          | .ok _ => none
          | .error e => some (.gate e)⟩, t') := by
  unfold run
  rw [StateT.run_bind]
  cases (produce (FileTree.store now) arguments home).run.run t with
  | mk produced t' => cases produced <;> rfl

theorem exitCode_eq_zero {report : CommandReport} : report.exitCode = 0 ↔ report.error = none := by
  unfold CommandReport.exitCode
  cases report.error with
  | none => exact iff_of_true rfl rfl
  | some e => exact iff_of_false (show ¬ (1 : UInt32) = 0 by decide) nofun

/-- The command succeeds exactly if it has a result whose gate passes. -/
theorem exitCode_run (now : String) (arguments : List String) (home : String) (t : FileTree) :
    ((run (FileTree.store now) arguments home).run t).1.exitCode = 0 ↔
      ∃ result path t', Yields (produce (FileTree.store now) arguments home) t (result, path) t' ∧
        result.enforceGate = .ok () := by
  rw [exitCode_eq_zero, run_eq]
  unfold Yields
  cases (produce (FileTree.store now) arguments home).run.run t with
  | mk produced t' =>
    cases produced with
    | error e =>
      refine iff_of_false nofun ?_
      rintro ⟨_, _, _, yields, -⟩
      cases yields
    | ok pair =>
      obtain ⟨result, path⟩ := pair
      dsimp only
      cases gate : result.enforceGate with
      | ok => exact iff_of_true rfl ⟨result, path, t', rfl, gate⟩
      | error e =>
        refine iff_of_false nofun ?_
        rintro ⟨_, _, _, yields, passes⟩
        cases yields
        cases gate.symm.trans passes

end Command

/-! ## What the evidence shows -/

/-- The member of an object with a name. -/
def memberNamed? (name : String) : Json → Option Json
  | .object members => members.lookup (some name)
  | _ => none

/-- The outcome that a line of evidence shows is `pass`. -/
def ShowsPass (line : Json) : Prop := memberNamed? "outcome" line = some (.ofString "pass")

/-- A text is the evidence of a result: a line for the summary and one for each log entry.  The
summary passes, without an error code, exactly if each entry does. -/
structure IsEvidence (text : String) (result : ConformanceRunResult) (summary : Json) : Prop where
  lines : ∃ lines, IsLines text lines ∧ lines.length = 1 + result.logs.length ∧
    lines.map Json.read? = (summary :: result.logs.map ScenarioLogEvent.toJson).map some
  outcome : ShowsPass summary ↔ ∀ entry ∈ result.logs, ShowsPass entry.toJson
  errorCode : memberNamed? "error_code" summary = some .null ↔
    ∀ entry ∈ result.logs, ShowsPass entry.toJson

theorem wellFormed_summaryJson (result : ConformanceRunResult) (now manifestPath : String) :
    (summaryJson result now manifestPath).WellFormed := by
  apply Json.wellFormed_record
  cases result.enforceGate <;> simp [ConformanceRunSummary.members]

theorem wellFormed_entryJson (entry : ScenarioLogEvent) : entry.toJson.WellFormed := by
  apply Json.wellFormed_record
  simp [Json.wellFormed_ofOption Json.wellFormed_ofString]

theorem showsPass_entry {entry : ScenarioLogEvent} :
    ShowsPass entry.toJson ↔ entry.outcome = "pass" := by
  have member : memberNamed? "outcome" entry.toJson = some (.ofString entry.outcome) := rfl
  rw [ShowsPass, member]
  simp [Json.ofString]

theorem showsPass_summary {result : ConformanceRunResult} {now manifestPath : String} :
    ShowsPass (summaryJson result now manifestPath) ↔ result.enforceGate = .ok () := by
  unfold ShowsPass summaryJson
  cases result.enforceGate with
  | ok => exact iff_of_true rfl rfl
  | error e =>
    refine iff_of_false ?_ nofun
    show ¬ some (Json.ofString "fail") = some (.ofString "pass")
    simp [Json.ofString]

theorem errorCode_summary {result : ConformanceRunResult} {now manifestPath : String} :
    memberNamed? "error_code" (summaryJson result now manifestPath) = some .null ↔
      result.enforceGate = .ok () := by
  unfold summaryJson
  cases result.enforceGate with
  | ok => exact iff_of_true rfl rfl
  | error e =>
    refine iff_of_false ?_ nofun
    show ¬ some (Json.ofString "OM-SCENARIO-GATE") = some .null
    simp [Json.ofString]

theorem gate_of_accounts {result : ConformanceRunResult} {m : ScenarioManifest}
    {config : RealmConfig} (accounts : result.Accounts m config) :
    result.enforceGate = .ok () ↔ ∀ entry ∈ result.logs, ShowsPass entry.toJson := by
  simp only [showsPass_entry]
  exact accounts.gate.trans ConformanceRunResult.failures_eq_nil

theorem isEvidence_evidenceLines {result : ConformanceRunResult} {m : ScenarioManifest}
    {config : RealmConfig} (accounts : result.Accounts m config) (now manifestPath : String) :
    IsEvidence (linesText (evidenceLines result now manifestPath)) result
      (summaryJson result now manifestPath) := by
  have wellFormed : ∀ j ∈ summaryJson result now manifestPath ::
      result.logs.map ScenarioLogEvent.toJson, j.WellFormed := by
    simp [wellFormed_summaryJson, wellFormed_entryJson]
  refine ⟨⟨_, isLines_linesText ?_, ?_, ?_⟩, ?_, ?_⟩
  · simp only [evidenceLines, List.forall_mem_map]
    intro j member
    rw [Json.render, String.toList_ofList]
    exact Json.newline_notMem_chars (wellFormed j member)
  · simp [evidenceLines, Nat.add_comm]
  · rw [evidenceLines, List.map_map]
    exact List.map_congr_left fun j member => Json.read?_render (wellFormed j member)
  · rw [showsPass_summary, gate_of_accounts accounts]
  · rw [errorCode_summary, gate_of_accounts accounts]

/-- A run of a manifest has a result unless a scenario is so long that a realm could run out of
handles, and the result accounts for every scenario.  The command leaves the evidence of its result
in a file, and it succeeds exactly if it has a result in which each scenario passes. -/
theorem every_scenario_is_accounted_for :
    (∀ (m : ScenarioManifest) (config : RealmConfig),
      ((∀ s ∈ m.scenarios, s.steps.length + 3 ≤ 2 ^ 31) → ∃ result, m.run config = some result) ∧
      ∀ result, m.run config = some result → result.Accounts m config) ∧
    ∀ (now : String) (arguments : List String) (home : String) (t : FileTree),
      (∀ result path t', (produce (FileTree.store now) arguments home).run.run t =
          (.ok (result, path), t') →
        ∃ settings config m text summary,
          (Settings.standard home).ofArguments arguments = .ok settings ∧
          ScenarioManifest.ofFile (t.read settings.manifest).toOption = .ok m ∧
          m.fault? = none ∧ config.fault? = none ∧ m.run config = some result ∧
          IsEvidence text result summary ∧ t'.read path = .ok text.toUTF8 ∧
          ((run (FileTree.store now) arguments home).run t).2 = t') ∧
      (((run (FileTree.store now) arguments home).run t).1.exitCode = 0 ↔
        ∃ result path t', (produce (FileTree.store now) arguments home).run.run t =
            (.ok (result, path), t') ∧
          ∀ entry ∈ result.logs, ShowsPass entry.toJson) := by
  refine ⟨fun m config => ⟨fun short => ScenarioManifest.run_completes short config,
    fun result => ScenarioManifest.run_accounts⟩, fun now arguments home t => ⟨?_, ?_⟩⟩
  · intro result path t' yields
    obtain ⟨settings, config, m, asked, accepted, valid, validConfig, ends, written⟩ :=
      produce_yields yields
    have accounts := ScenarioManifest.run_accounts ends
    exact ⟨settings, config, m, _, _, asked, accepted, valid, validConfig, ends,
      isEvidence_evidenceLines accounts now settings.manifest, written, by rw [run_eq, yields]⟩
  · rw [exitCode_run]
    -- a result of the command is that of a run, in which gate and entries agree
    have agree : ∀ {result path t'},
        Yields (produce (FileTree.store now) arguments home) t (result, path) t' →
        (result.enforceGate = .ok () ↔ ∀ entry ∈ result.logs, ShowsPass entry.toJson) := by
      intro result path t' yields
      obtain ⟨_, _, _, -, -, -, -, ends, -⟩ := produce_yields yields
      exact gate_of_accounts (ScenarioManifest.run_accounts ends)
    constructor
    · rintro ⟨result, path, t', yields, gate⟩
      exact ⟨result, path, t', yields, (agree yields).1 gate⟩
    · rintro ⟨result, path, t', yields, pass⟩
      exact ⟨result, path, t', yields, (agree yields).2 pass⟩

/-- A scenario without steps passes, whatever its name, and another fails in its second step.  The
evidence has a line for the summary and one for each of them. -/
theorem evidence_of_passed_and_failed :
    let text := "[\"descriptor-engine.object-model-scenarios.v1\",[[\"a\\nb\",\"\",[]]," ++
      "[\"c\",\"\",[[\"set_cell\",\"x\",\"null\"],[\"expect_cell\",\"x\",\"nan\"]]]]]"
    let m : ScenarioManifest := ⟨ScenarioManifest.currentSchema,
      [⟨"a\nb", "", []⟩, ⟨"c", "", [.setCell "x" .null, .expectCell "x" .nan]⟩]⟩
    let t : FileTree := ⟨[], [(["m"], text.toUTF8)], []⟩
    let arguments := ["--manifest", "m", "--output-root", ""]
    let shown (entry : ScenarioLogEvent) := (entry.outcome, entry.stepsRun, entry.failedStep)
    ScenarioManifest.ofText text = .ok m ∧
    (∃ result, m.run {} = some result ∧ result.Accounts m {}) ∧
    ∃ result path t', (produce (FileTree.store "now") arguments "").run.run t =
        (.ok (result, path), t') ∧
      result.logs.map shown = [("pass", 0, none), ("fail", 2, some "1:expect_cell")] ∧
      ∃ text summary lines, t'.read path = .ok text.toUTF8 ∧ IsLines text lines ∧
        lines.length = 3 ∧ lines.head?.bind Json.read? = some summary ∧ ¬ ShowsPass summary ∧
        ((run (FileTree.store "now") arguments "").run t).1.exitCode ≠ 0 := by
  intro text m t arguments shown
  obtain ⟨everyRun, everyCommand⟩ := every_scenario_is_accounted_for
  obtain ⟨completes, accounted⟩ := everyRun m {}
  obtain ⟨result₀, ends⟩ := completes (by decide)
  refine ⟨by decide +kernel, ⟨result₀, ends, accounted result₀ ends⟩, ?_⟩
  -- the whole command is evaluated once, with the digest that names the directory
  have ran : ((produce (FileTree.store "now") arguments "").run.run t).1.toOption.map
      (·.1.logs.map shown) = some [("pass", 0, none), ("fail", 2, some "1:expect_cell")] := by
    decide +kernel
  obtain ⟨result, path, t', produced, outcomes⟩ : ∃ result path t',
      (produce (FileTree.store "now") arguments "").run.run t = (.ok (result, path), t') ∧
        result.logs.map shown = [("pass", 0, none), ("fail", 2, some "1:expect_cell")] := by
    cases produced : (produce (FileTree.store "now") arguments "").run.run t with
    | mk answer t' =>
      rw [produced] at ran
      cases answer with
      | error e => cases ran
      | ok pair => exact ⟨pair.1, pair.2, t', rfl, Option.some.inj ran⟩
  obtain ⟨everyResult, exits⟩ := everyCommand "now" arguments "" t
  obtain ⟨_, _, _, text', summary, -, -, -, -, -, evidence, written, -⟩ :=
    everyResult _ _ _ produced
  obtain ⟨lines, isLines, length, trees⟩ := evidence.lines
  have two : result.logs.length = 2 := by
    rw [← List.length_map shown, outcomes]
    rfl
  have fails : ¬ ∀ entry ∈ result.logs, ShowsPass entry.toJson := by
    intro all
    have passes : ∀ entry ∈ result.logs.map shown, entry.1 = "pass" := by
      simpa [showsPass_entry, shown] using all
    rw [outcomes] at passes
    exact absurd (passes _ (List.mem_cons_of_mem _ List.mem_cons_self)) (by decide)
  refine ⟨result, path, t', produced, outcomes, text', summary, lines, written, isLines,
    by rw [length, two], ?_, mt evidence.outcome.1 fails, ?_⟩
  · cases lines with
    | nil => cases trees
    | cons line rest => exact (List.cons.inj trees).1
  · intro succeeds
    obtain ⟨_, _, _, again, pass⟩ := exits.1 succeeds
    cases produced.symm.trans again
    exact fails pass

end Cli

end ObjectModel
