import ObjectModel.Config
import ObjectModel.Hash.Sha256
import ObjectModel.Json.Printer
import ObjectModel.Json.Reader
import ObjectModel.Scenario.Codec

/-!
# Manifests

Reading a manifest, what makes it valid, and the hash of its canonical text.
-/

namespace ObjectModel

/-- Why a manifest could not be run. -/
inductive ScenarioError where
  /-- The file cannot be read as text. -/
  | io
  /-- The text is no manifest. -/
  | json
  | unsupportedSchema (actual : String)
  | emptyScenarioSet
  | invalidScenarioId (id : String)
  | config (e : ConfigError)
deriving DecidableEq, Inhabited

namespace ScenarioManifest

/-- The schema that manifests have to name. -/
def currentSchema : String := "descriptor-engine.object-model-scenarios.v1"

/-- The first id that is blank or that an earlier scenario has, where `seen` are the ids before. -/
def badId? (seen : List String) : List Scenario → Option String
  | [] => none
  | s :: rest =>
    if Text.isBlankText s.id || seen.contains s.id then some s.id
    else badId? (s.id :: seen) rest

/-- The first fault of a manifest. -/
def fault? (m : ScenarioManifest) : Option ScenarioError :=
  if Text.trim m.schemaVersion ≠ currentSchema then some (.unsupportedSchema m.schemaVersion)
  else if m.scenarios.isEmpty then some .emptyScenarioSet
  else (badId? [] m.scenarios).map .invalidScenarioId

/-- The manifest itself, if nothing is wrong with it. -/
def validate (m : ScenarioManifest) : Except ScenarioError ScenarioManifest :=
  match m.fault? with
  | some fault => .error fault
  | none => .ok m

/-- The canonical text of a manifest. -/
def canonicalText (m : ScenarioManifest) : String := m.toJson.render

/-- The SHA-256 digest of the canonical text. -/
def contentHash (m : ScenarioManifest) : String := Sha256.hexDigest m.canonicalText

/-- The valid manifest that a text describes. -/
def ofText (text : String) : Except ScenarioError ScenarioManifest :=
  match (Json.read? text).bind (decode .root) with
  | some m => m.validate
  | none => .error .json

/-- The valid manifest in a file. -/
def ofFile (content : Option ByteArray) : Except ScenarioError ScenarioManifest :=
  match content.bind String.fromUTF8? with
  | some text => ofText text
  | none => .error .io

end ScenarioManifest

namespace ScenarioError

def message : ScenarioError → String
  | io => "failed to read scenario manifest"
  | json => "failed to parse scenario manifest"
  | unsupportedSchema actual =>
    "unsupported scenario manifest schema: expected `" ++ ScenarioManifest.currentSchema ++
      "`, got `" ++ actual ++ "`"
  | emptyScenarioSet => "scenario manifest contains no scenarios"
  | invalidScenarioId id => "scenario id `" ++ id ++ "` is empty or duplicated"
  | config e => e.message

end ScenarioError

end ObjectModel
