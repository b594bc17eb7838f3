import ObjectModel.Codec.Value
import ObjectModel.Codec.Descriptor
import ObjectModel.Scenario.Basic

/-!
# JSON of scenarios
-/

namespace ObjectModel

namespace ScenarioValue

/-- A value: its name, with its content if it has one. -/
def toJson : ScenarioValue → Json
  | undefined => .ofString "undefined"
  | null => .ofString "null"
  | nan => .ofString "nan"
  | infinity => .ofString "infinity"
  | bool b => .record [("bool", .bool b)]
  | number x => .record [("number", .ofDouble x)]
  | string s => .record [("string", .ofString s)]
  | object name => .record [("object", .ofString name)]

def decode : Json.Decoder ScenarioValue := fun p j => do
  let (name, content) ← Json.alternative? j
  let plain (v : ScenarioValue) : Option ScenarioValue :=
    if content.all (Json.isNothing p.inner) then some v else none
  match name with
  | "undefined" => plain undefined
  | "null" => plain null
  | "nan" => plain nan
  | "infinity" => plain infinity
  | "bool" => bool <$> Json.toBool? p.inner (← content)
  | "number" => number <$> Json.toDouble? p.inner (← content)
  | "string" => string <$> Json.toText? p.inner (← content)
  | "object" => object <$> Json.toText? p.inner (← content)
  | _ => none

end ScenarioValue

namespace ScenarioDescriptor

/-- The record of the fields that are present. -/
def toJson (d : ScenarioDescriptor) : Json :=
  .record
    (Json.member "value" ScenarioValue.toJson d.value ++
      Json.member "writable" .bool d.writable ++
      Json.member "get" (.ofOption .ofString) d.get ++
      Json.member "set" (.ofOption .ofString) d.set ++
      Json.member "enumerable" .bool d.enumerable ++
      Json.member "configurable" .bool d.configurable)

def decode : Json.Decoder ScenarioDescriptor := fun p j => do
  let r ← Json.record? DescriptorFields.fieldNames true p j
  return {
    value := ← r.optional "value" ScenarioValue.decode
    writable := ← r.optional "writable" Json.toBool?
    get := ← r.tristate "get" Json.toText?
    set := ← r.tristate "set" Json.toText?
    enumerable := ← r.optional "enumerable" Json.toBool?
    configurable := ← r.optional "configurable" Json.toBool? }

end ScenarioDescriptor

namespace FunctionBehavior

/-- The tagged record of a behaviour. -/
def toJson : FunctionBehavior → Json
  | returnConstant value =>
    .record [("kind", .ofString "return_constant"), ("value", value.toJson)]
  | readCell cell plus =>
    .record [("kind", .ofString "read_cell"), ("cell", .ofString cell),
      ("plus", .ofOption .ofDouble plus)]
  | writeCell cell => .record [("kind", .ofString "write_cell"), ("cell", .ofString cell)]

def decode : Json.Decoder FunctionBehavior := fun p j => do
  let (kind, p, j) ← Json.tagged? "kind" ["return_constant", "read_cell", "write_cell"] p j
  match kind with
  | "return_constant" =>
    let r ← Json.record? ["value"] false p j
    return returnConstant (← r.required "value" ScenarioValue.decode)
  | "read_cell" =>
    let r ← Json.record? ["cell", "plus"] false p j
    return readCell (← r.required "cell" Json.toText?) (← r.optional "plus" Json.toDouble?)
  | _ =>
    let r ← Json.record? ["cell"] false p j
    return writeCell (← r.required "cell" Json.toText?)

end FunctionBehavior

namespace ScenarioLiteralEntry

/-- The tagged record of an entry. -/
def toJson : ScenarioLiteralEntry → Json
  | data key value =>
    .record [("kind", .ofString "data"), ("key", .ofString key), ("value", value.toJson)]
  | getter key function =>
    .record [("kind", .ofString "getter"), ("key", .ofString key), ("function", .ofString function)]
  | setter key function =>
    .record [("kind", .ofString "setter"), ("key", .ofString key), ("function", .ofString function)]

def decode : Json.Decoder ScenarioLiteralEntry := fun p j => do
  let (kind, p, j) ← Json.tagged? "kind" ["data", "getter", "setter"] p j
  match kind with
  | "data" =>
    let r ← Json.record? ["key", "value"] false p j
    return data (← r.required "key" Json.toText?) (← r.required "value" ScenarioValue.decode)
  | "getter" =>
    let r ← Json.record? ["key", "function"] false p j
    return getter (← r.required "key" Json.toText?) (← r.required "function" Json.toText?)
  | _ =>
    let r ← Json.record? ["key", "function"] false p j
    return setter (← r.required "key" Json.toText?) (← r.required "function" Json.toText?)

end ScenarioLiteralEntry

namespace ScenarioStep

/-- The fields of a step, without its name. -/
def fieldsToJson : ScenarioStep → List (String × Json)
  | createObject name proto nullPrototype =>
    [("name", .ofString name), ("prototype", .ofOption .ofString proto),
      ("null_prototype", .bool nullPrototype)]
  | objectLiteral name entries =>
    [("name", .ofString name), ("entries", .ofList ScenarioLiteralEntry.toJson entries)]
  | createFunction name behavior recordReceiver =>
    [("name", .ofString name), ("behavior", behavior.toJson),
      ("record_receiver", .ofOption .ofString recordReceiver)]
  | construct name function => [("name", .ofString name), ("function", .ofString function)]
  | bind name object key =>
    [("name", .ofString name), ("object", .ofString object), ("key", .ofString key)]
  | setCell cell value => [("cell", .ofString cell), ("value", value.toJson)]
  | setPrototype object proto =>
    [("object", .ofString object), ("prototype", .ofOption .ofString proto)]
  | define object key descriptor expectError =>
    [("object", .ofString object), ("key", .ofString key), ("descriptor", descriptor.toJson),
      ("expect_error", .ofOption DefineErrorKind.toJson expectError)]
  | put object key value receiver =>
    [("object", .ofString object), ("key", .ofString key), ("value", value.toJson),
      ("receiver", .ofOption .ofString receiver)]
  | delete object key expect =>
    [("object", .ofString object), ("key", .ofString key), ("expect", .bool expect)]
  | expectValue object key value receiver =>
    [("object", .ofString object), ("key", .ofString key), ("value", value.toJson),
      ("receiver", .ofOption .ofString receiver)]
  | expectDescriptor object key descriptor =>
    [("object", .ofString object), ("key", .ofString key),
      ("descriptor", .ofOption ScenarioDescriptor.toJson descriptor)]
  | expectKeys object keys => [("object", .ofString object), ("keys", .ofList .ofString keys)]
  | expectCell cell value => [("cell", .ofString cell), ("value", value.toJson)]
  | expectReceiver cell object => [("cell", .ofString cell), ("object", .ofString object)]

/-- The tagged record of a step. -/
def toJson (step : ScenarioStep) : Json :=
  .record (("op", .ofString step.op) :: step.fieldsToJson)

/-- The names of all steps. -/
def opNames : List String :=
  ["create_object", "object_literal", "create_function", "construct", "bind", "set_cell",
    "set_prototype", "define", "put", "delete", "expect_value", "expect_descriptor",
    "expect_keys", "expect_cell", "expect_receiver"]

def decode : Json.Decoder ScenarioStep := fun p j => do
  let (op, p, j) ← Json.tagged? "op" opNames p j
  let text (r : Json.Record) (name : String) : Option String := r.required name Json.toText?
  match op with
  | "create_object" =>
    let r ← Json.record? ["name", "prototype", "null_prototype"] false p j
    return createObject (← text r "name") (← r.optional "prototype" Json.toText?)
      (← r.withDefault "null_prototype" Json.toBool? false)
  | "object_literal" =>
    let r ← Json.record? ["name", "entries"] false p j
    return objectLiteral (← text r "name")
      (← r.required "entries" (Json.toList? ScenarioLiteralEntry.decode))
  | "create_function" =>
    let r ← Json.record? ["name", "behavior", "record_receiver"] false p j
    return createFunction (← text r "name") (← r.required "behavior" FunctionBehavior.decode)
      (← r.optional "record_receiver" Json.toText?)
  | "construct" =>
    let r ← Json.record? ["name", "function"] false p j
    return construct (← text r "name") (← text r "function")
  | "bind" =>
    let r ← Json.record? ["name", "object", "key"] false p j
    return bind (← text r "name") (← text r "object") (← text r "key")
  | "set_cell" =>
    let r ← Json.record? ["cell", "value"] false p j
    return setCell (← text r "cell") (← r.required "value" ScenarioValue.decode)
  | "set_prototype" =>
    let r ← Json.record? ["object", "prototype"] false p j
    return setPrototype (← text r "object") (← r.nullable "prototype" Json.toText?)
  | "define" =>
    let r ← Json.record? ["object", "key", "descriptor", "expect_error"] false p j
    return define (← text r "object") (← text r "key")
      (← r.required "descriptor" ScenarioDescriptor.decode)
      (← r.optional "expect_error" DefineErrorKind.decode)
  | "put" =>
    let r ← Json.record? ["object", "key", "value", "receiver"] false p j
    return put (← text r "object") (← text r "key") (← r.required "value" ScenarioValue.decode)
      (← r.optional "receiver" Json.toText?)
  | "delete" =>
    let r ← Json.record? ["object", "key", "expect"] false p j
    return delete (← text r "object") (← text r "key") (← r.required "expect" Json.toBool?)
  | "expect_value" =>
    let r ← Json.record? ["object", "key", "value", "receiver"] false p j
    return expectValue (← text r "object") (← text r "key")
      (← r.required "value" ScenarioValue.decode) (← r.optional "receiver" Json.toText?)
  | "expect_descriptor" =>
    let r ← Json.record? ["object", "key", "descriptor"] false p j
    return expectDescriptor (← text r "object") (← text r "key")
      (← r.optional "descriptor" ScenarioDescriptor.decode)
  | "expect_keys" =>
    let r ← Json.record? ["object", "keys"] false p j
    return expectKeys (← text r "object") (← r.required "keys" (Json.toList? Json.toText?))
  | "expect_cell" =>
    let r ← Json.record? ["cell", "value"] false p j
    return expectCell (← text r "cell") (← r.required "value" ScenarioValue.decode)
  | _ =>
    let r ← Json.record? ["cell", "object"] false p j
    return expectReceiver (← text r "cell") (← text r "object")

end ScenarioStep

namespace Scenario

def toJson (s : Scenario) : Json :=
  .record [("id", .ofString s.id), ("description", .ofString s.description),
    ("steps", .ofList ScenarioStep.toJson s.steps)]

def decode : Json.Decoder Scenario := fun p j => do
  let r ← Json.record? ["id", "description", "steps"] false p j
  return {
    id := ← r.required "id" Json.toText?
    description := ← r.withDefault "description" Json.toText? ""
    steps := ← r.required "steps" (Json.toList? ScenarioStep.decode) }

end Scenario

namespace ScenarioManifest

def toJson (m : ScenarioManifest) : Json :=
  .record [("schema_version", .ofString m.schemaVersion),
    ("scenarios", .ofList Scenario.toJson m.scenarios)]

def decode : Json.Decoder ScenarioManifest := fun p j => do
  let r ← Json.record? ["schema_version", "scenarios"] false p j
  return {
    schemaVersion := ← r.required "schema_version" Json.toText?
    scenarios := ← r.required "scenarios" (Json.toList? Scenario.decode) }

end ScenarioManifest

end ObjectModel
