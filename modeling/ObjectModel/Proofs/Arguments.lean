import Mathlib.Data.List.Induction
import ObjectModel.Cli.Arguments

/-!
# What the command line accepts

Reading takes arguments two at a time, so a pair of a flag and a value in front only changes the
settings that the rest is read on top of (`Settings.ofArguments_argumentsOf`), and folding the
pairs keeps the last value of each flag (`Settings.foldl_set`).  Every list of arguments is such
pairs, followed by nothing or by an offence (`arguments_split`), which is refused whatever the
settings are (`Settings.ofArguments_offends`).
-/

namespace ObjectModel.Cli

/-! ## Pairs of flags and values -/

/-- The arguments that flags and their values make up. -/
def argumentsOf (pairs : List (Flag × String)) : List String :=
  pairs.flatMap fun (flag, value) => [flag.text, value]

/-- The value in the last pair with a flag. -/
def lastValue? (flag : Flag) (pairs : List (Flag × String)) : Option String :=
  (pairs.filter fun pair => pair.1 = flag).getLast?.map Prod.snd

theorem lastValue?_concat (flag flag' : Flag) (value : String) (pairs : List (Flag × String)) :
    lastValue? flag (pairs ++ [(flag', value)]) =
      if flag' = flag then some value else lastValue? flag pairs := by
  unfold lastValue?
  rw [List.filter_append]
  by_cases same : flag' = flag <;> simp [same]

/-- The list begins where a flag should be with something else, or with a flag at its end; the
error that it is refused with, and the text of that. -/
inductive Offends : List String → UsageError → String → Prop where
  | help {argument : String} (asked : argument = "--help" ∨ argument = "-h") (rest : List String) :
      Offends (argument :: rest) .help
        ("usage: descriptor_conformance_runner [--manifest <path>] [--config <realm.toml>] " ++
          "[--output-root <path>]")
  | missingValue (flag : Flag) :
      Offends [flag.text] (.missingValue flag) (flag.text ++ " requires a value")
  | unknown {argument : String} (noFlag : ∀ flag : Flag, argument ≠ flag.text)
      (noHelp : argument ≠ "--help" ∧ argument ≠ "-h") (rest : List String) :
      Offends (argument :: rest) (.unknownArgument argument) ("unknown argument: " ++ argument)

theorem Offends.message {rest : List String} {e : UsageError} {text : String}
    (offends : Offends rest e text) : e.message = text := by
  cases offends <;> rfl

namespace Flag

theorem ofText?_text (flag : Flag) : ofText? flag.text = some flag := by
  cases flag <;> rfl

theorem ofText?_eq_some_iff {argument : String} {flag : Flag} :
    ofText? argument = some flag ↔ argument = flag.text := by
  refine ⟨fun read => ?_, fun same => same ▸ flag.ofText?_text⟩
  unfold ofText? at read
  split at read <;> cases read <;> rfl

theorem ofText?_eq_none_iff {argument : String} :
    ofText? argument = none ↔ ∀ flag : Flag, argument ≠ flag.text := by
  rw [Option.eq_none_iff_forall_ne_some]
  exact forall_congr' fun flag => not_congr ofText?_eq_some_iff

end Flag

/-- Arguments are pairs as far as that goes, and then nothing or an offence. -/
theorem arguments_split (s : Settings) (arguments : List String) :
    ∃ pairs rest, arguments = argumentsOf pairs ++ rest ∧
      (rest = [] ∨ ∃ e text, Offends rest e text) := by
  -- only a pair in front leaves it to the rest how the arguments end
  fun_induction Settings.ofArguments s arguments with
  | case1 s => exact ⟨[], [], rfl, .inl rfl⟩
  | case2 s argument flag read =>
    obtain rfl := Flag.ofText?_eq_some_iff.1 read
    exact ⟨[], _, rfl, .inr ⟨_, _, .missingValue flag⟩⟩
  | case3 s argument flag read value rest ih =>
    obtain rfl := Flag.ofText?_eq_some_iff.1 read
    obtain ⟨pairs, rest, rfl, ends⟩ := ih
    exact ⟨(flag, value) :: pairs, rest, rfl, ends⟩
  | case4 s argument rest read asked =>
    exact ⟨[], _, rfl, .inr ⟨_, _, .help asked rest⟩⟩
  | case5 s argument rest read other =>
    have noFlag := Flag.ofText?_eq_none_iff.1 read
    exact ⟨[], _, rfl, .inr ⟨_, _, .unknown noFlag (not_or.1 other) rest⟩⟩

namespace Settings

/-! ## Reading pairs -/

/-- The settings after some pairs: the last value of each flag, or what was there before. -/
def afterPairs (s : Settings) (pairs : List (Flag × String)) : Settings where
  manifest := (lastValue? .manifest pairs).getD s.manifest
  config := (lastValue? .config pairs).or s.config
  outputRoot := (lastValue? .outputRoot pairs).getD s.outputRoot

/-- Changing settings pair by pair leaves the last value of each flag. -/
theorem foldl_set (s : Settings) (pairs : List (Flag × String)) :
    pairs.foldl (fun s (flag, value) => s.set value flag) s = s.afterPairs pairs := by
  -- from the back, where the pair stands that counts
  induction pairs using List.reverseRecOn with
  | nil => rfl
  | append_singleton pairs pair ih =>
    obtain ⟨flag, value⟩ := pair
    rw [List.foldl_append, ih]
    cases flag <;> simp [set, afterPairs, lastValue?_concat]

theorem ofArguments_pair (s : Settings) (flag : Flag) (value : String) (rest : List String) :
    s.ofArguments (flag.text :: value :: rest) = (s.set value flag).ofArguments rest := by
  rw [ofArguments, flag.ofText?_text]

/-- Pairs in front change the settings that the rest is read on top of. -/
theorem ofArguments_argumentsOf (s : Settings) (pairs : List (Flag × String))
    (rest : List String) :
    s.ofArguments (argumentsOf pairs ++ rest) = (s.afterPairs pairs).ofArguments rest := by
  rw [← foldl_set]
  induction pairs generalizing s with
  | nil => rfl
  | cons pair pairs ih => exact (s.ofArguments_pair pair.1 pair.2 _).trans (ih _)

theorem ofArguments_offends (s : Settings) {rest : List String} {e : UsageError} {text : String}
    (offends : Offends rest e text) : s.ofArguments rest = .error e := by
  cases offends with
  | @help argument asked rest =>
    have noFlag : Flag.ofText? argument = none := by
      obtain rfl | rfl := asked <;> rfl
    rw [ofArguments, noFlag]
    exact if_pos asked
  | missingValue flag => rw [ofArguments, flag.ofText?_text]
  | @unknown argument noFlag noHelp rest =>
    rw [ofArguments, Flag.ofText?_eq_none_iff.2 noFlag]
    exact if_neg (not_or.2 noHelp)

/-! ## The grammar -/

theorem ofArguments_eq_ok_iff {s settings : Settings} {arguments : List String} :
    s.ofArguments arguments = .ok settings ↔
      ∃ pairs, arguments = argumentsOf pairs ∧ settings = s.afterPairs pairs := by
  constructor
  · intro accepted
    obtain ⟨pairs, rest, rfl, rfl | ⟨e, text, offends⟩⟩ := arguments_split s arguments
    · rw [ofArguments_argumentsOf] at accepted
      exact ⟨pairs, List.append_nil _, (Except.ok.inj accepted).symm⟩
    · rw [ofArguments_argumentsOf, ofArguments_offends _ offends] at accepted
      cases accepted
  · rintro ⟨pairs, rfl, rfl⟩
    rw [← List.append_nil (argumentsOf pairs), ofArguments_argumentsOf]
    rfl

theorem ofArguments_eq_error_iff {s : Settings} {arguments : List String} {e : UsageError}
    {text : String} :
    s.ofArguments arguments = .error e ∧ e.message = text ↔
      ∃ pairs rest, arguments = argumentsOf pairs ++ rest ∧ Offends rest e text := by
  constructor
  · rintro ⟨refused, rfl⟩
    obtain ⟨pairs, rest, rfl, rfl | ⟨e', text, offends⟩⟩ := arguments_split s arguments
    · rw [ofArguments_argumentsOf] at refused
      cases refused
    · rw [ofArguments_argumentsOf, ofArguments_offends _ offends] at refused
      cases refused
      rw [offends.message]
      exact ⟨pairs, rest, rfl, offends⟩
  · rintro ⟨pairs, rest, rfl, offends⟩
    rw [ofArguments_argumentsOf, ofArguments_offends _ offends]
    exact ⟨rfl, offends.message⟩

theorem afterPairs_congr {pairs pairs' : List (Flag × String)}
    (same : ∀ flag, (pairs.filter fun pair => pair.1 = flag) =
      pairs'.filter fun pair => pair.1 = flag) (s : Settings) :
    s.afterPairs pairs = s.afterPairs pairs' := by
  simp only [afterPairs, lastValue?, same]

end Settings

/-- A name is appended behind a slash, unless the path is empty or ends with one. -/
theorem joinPath_eq (path name : String) : joinPath path name =
    (if path = "" ∨ path.toList.getLast? = some '/' then path else path ++ "/") ++ name := by
  unfold joinPath
  by_cases empty : path = ""
  · simp [empty]
  · by_cases slash : path.toList.getLast? = some '/' <;> simp [empty, slash]

/-- The command line accepts the concatenations of pairs of a flag and any text, and no other
arguments.  Each setting is then the value in the last pair with its flag, or its default, so the
order of pairs with different flags does not matter.  The default of the manifest is a path under
the directory of the sources.  Other arguments are pairs up to the first offence, and the error is
that of the offence. -/
theorem arguments_follow_grammar (home : String) :
    (∀ arguments, (∃ settings, (Settings.standard home).ofArguments arguments = .ok settings) ↔
      ∃ pairs, arguments = argumentsOf pairs) ∧
    (∀ pairs, (Settings.standard home).ofArguments (argumentsOf pairs) = .ok
      { manifest := (lastValue? .manifest pairs).getD
          ((if home = "" ∨ home.toList.getLast? = some '/' then home else home ++ "/") ++
            "tests/conformance/es5_object_model.json")
        config := lastValue? .config pairs
        outputRoot := (lastValue? .outputRoot pairs).getD "artifacts/descriptor_conformance" }) ∧
    (∀ pairs pairs' : List (Flag × String),
      (∀ flag, (pairs.filter fun pair => pair.1 = flag) = pairs'.filter fun pair => pair.1 = flag) →
      (Settings.standard home).ofArguments (argumentsOf pairs) =
        (Settings.standard home).ofArguments (argumentsOf pairs')) ∧
    ∀ arguments e text,
      (Settings.standard home).ofArguments arguments = .error e ∧ e.message = text ↔
        ∃ pairs rest, arguments = argumentsOf pairs ++ rest ∧ Offends rest e text := by
  have accepted : ∀ pairs, (Settings.standard home).ofArguments (argumentsOf pairs) =
      .ok ((Settings.standard home).afterPairs pairs) :=
    fun pairs => Settings.ofArguments_eq_ok_iff.2 ⟨pairs, rfl, rfl⟩
  refine ⟨fun arguments => ⟨?_, ?_⟩, fun pairs => ?_, fun pairs pairs' same => ?_,
    fun arguments e text => Settings.ofArguments_eq_error_iff⟩
  · rintro ⟨settings, read⟩
    obtain ⟨pairs, written, -⟩ := Settings.ofArguments_eq_ok_iff.1 read
    exact ⟨pairs, written⟩
  · rintro ⟨pairs, rfl⟩
    exact ⟨_, accepted pairs⟩
  · rw [accepted, ← joinPath_eq, Settings.afterPairs, Settings.standard, Option.or_none]
  · rw [accepted, accepted, Settings.afterPairs_congr same]

/-- Flags and `--help` as values, a flag given twice on both sides of another one, a flag at the end
that has no value, and no arguments at all. -/
theorem flags_in_value_position :
    let s : Settings := .standard "/engine"
    s.ofArguments ["--manifest", "a", "--config", "--help", "--manifest", "--config"] =
      s.ofArguments ["--config", "--help", "--manifest", "a", "--manifest", "--config"] ∧
    s.ofArguments ["--config", "--help", "--manifest", "a", "--manifest", "--config"] =
      .ok { manifest := "--config", config := some "--help" } ∧
    s.ofArguments ["--manifest", "--help", "--config"] = .error (.missingValue .config) ∧
    s.ofArguments [] = .ok { manifest := "/engine/tests/conformance/es5_object_model.json" } := by
  intro s
  obtain ⟨-, accepted, reordered, refused⟩ := arguments_follow_grammar "/engine"
  let pairs : List (Flag × String) :=
    [(.manifest, "a"), (.config, "--help"), (.manifest, "--config")]
  let pairs' : List (Flag × String) :=
    [(.config, "--help"), (.manifest, "a"), (.manifest, "--config")]
  have same : ∀ flag, (pairs.filter fun pair => pair.1 = flag) =
      pairs'.filter fun pair => pair.1 = flag := by
    intro flag
    cases flag <;> rfl
  refine ⟨reordered pairs pairs' same, accepted pairs', ?_, accepted []⟩
  exact ((refused _ _ _).2 ⟨[(.manifest, "--help")], _, rfl, .missingValue .config⟩).1

end ObjectModel.Cli
