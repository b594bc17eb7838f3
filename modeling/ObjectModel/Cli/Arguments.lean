import ObjectModel.Cli.Path

/-!
# Command line arguments

The arguments are pairs of a flag and a value, where any text may be a value.  The last pair with a
flag counts.  The first argument in flag position that is no flag, or that has no value, is the
error.  Without a flag for it, the manifest is one that lies beside the program's own sources.
-/

namespace ObjectModel.Cli

/-- What the command line asks for. -/
structure Settings where
  /-- The manifest file to run. -/
  manifest : String
  /-- The configuration file; defaults are used without one. -/
  config : Option String := none
  /-- The directory under which evidence is written. -/
  outputRoot : String := "artifacts/descriptor_conformance"
deriving DecidableEq, Inhabited

/-- The flags, each of which takes a value. -/
inductive Flag where
  | manifest
  | config
  | outputRoot
deriving DecidableEq, Inhabited

namespace Flag

def text : Flag → String
  | manifest => "--manifest"
  | config => "--config"
  | outputRoot => "--output-root"

def ofText? : String → Option Flag
  | "--manifest" => some manifest
  | "--config" => some config
  | "--output-root" => some outputRoot
  | _ => none

end Flag

/-- Why the arguments were refused. -/
inductive UsageError where
  | help
  | missingValue (flag : Flag)
  | unknownArgument (argument : String)
deriving DecidableEq, Inhabited

def UsageError.message : UsageError → String
  | help =>
    "usage: descriptor_conformance_runner [--manifest <path>] [--config <realm.toml>] " ++
      "[--output-root <path>]"
  | missingValue flag => flag.text ++ " requires a value"
  | unknownArgument argument => "unknown argument: " ++ argument

namespace Settings

/-- What the command does without arguments if its sources are in the directory `home`. -/
def standard (home : String) : Settings where
  manifest := joinPath home "tests/conformance/es5_object_model.json"

/-- Changes what a flag stands for. -/
def set (s : Settings) (value : String) : Flag → Settings
  | .manifest => { s with manifest := value }
  | .config => { s with config := some value }
  | .outputRoot => { s with outputRoot := value }

/-- Reads the arguments on top of some settings. -/
def ofArguments (s : Settings) : List String → Except UsageError Settings
  | [] => .ok s
  | argument :: rest =>
    match Flag.ofText? argument with
    | some flag =>
      match rest with
      | [] => .error (.missingValue flag)
      | value :: rest => ofArguments (s.set value flag) rest
    | none =>
      if argument = "--help" ∨ argument = "-h" then .error .help
      else .error (.unknownArgument argument)

end Settings

end ObjectModel.Cli
