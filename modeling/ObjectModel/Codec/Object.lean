import ObjectModel.Codec.Descriptor
import ObjectModel.Chain
import ObjectModel.EventLog
import ObjectModel.Config
import ObjectModel.Literal
import ObjectModel.Realm.Intrinsics

/-!
# JSON of objects, heaps, events and settings
-/

namespace ObjectModel

namespace WalkTruncation

def toJson (t : WalkTruncation) : Json := .ofString t.name

def decode : Json.Decoder WalkTruncation :=
  Json.toChoice? [("cycle_detected", cycleDetected), ("depth_exceeded", depthExceeded)]

end WalkTruncation

namespace PropertyTable

/-- An object with the properties in insertion order. -/
def toJson (t : PropertyTable) : Json :=
  .record (t.entries.map fun (key, property) => (key.text, property.toJson))

/-- Reads properties in order; a repeated key keeps its first place and takes its last value. -/
def decode : Json.Decoder PropertyTable
  | p, .object members => do
    let members ← Json.namedMembers? members
    let entries ← members.mapM fun (name, j) =>
      (PropertyDescriptor.decode p.inner j).map (PropertyKey.mk name, ·)
    return OrderedMap.ofList entries
  | _, _ => none

end PropertyTable

namespace OrdinaryObject

def toJson (o : OrdinaryObject) : Json :=
  .record [("prototype", .ofOption ObjectHandle.toJson o.prototype),
    ("extensible", .bool o.extensible), ("properties", PropertyTable.toJson o.properties),
    ("class_tag", .ofOption .ofString o.classTag), ("callable", .bool o.callable)]

def decode : Json.Decoder OrdinaryObject := fun p j => do
  let r ← Json.record? ["prototype", "extensible", "properties", "class_tag", "callable"] false p j
  return {
    prototype := ← r.nullable "prototype" ObjectHandle.decode
    extensible := ← r.required "extensible" Json.toBool?
    properties := ← r.required "properties" PropertyTable.decode
    classTag := ← r.nullable "class_tag" Json.toText?
    callable := ← r.required "callable" Json.toBool? }

end OrdinaryObject

namespace Heap

def toJson (heap : Heap) : Json :=
  .record [("objects", .ofList OrdinaryObject.toJson heap.objects.toList)]

def decode : Json.Decoder Heap := fun p j => do
  let r ← Json.record? ["objects"] false p j
  Heap.ofList? (← r.required "objects" (Json.toList? OrdinaryObject.decode))

end Heap

namespace ObjectModelEvent

def toJson (e : ObjectModelEvent) : Json :=
  .record [("trace_id", .ofString e.traceId), ("component", .ofString e.component),
    ("event", .ofString e.event), ("outcome", .ofString e.outcome),
    ("error_code", .ofOption .ofString e.errorCode),
    ("object", .ofOption ObjectHandle.toJson e.object),
    ("key", .ofOption PropertyKey.toJson e.key)]

def decode : Json.Decoder ObjectModelEvent := fun p j => do
  let r ← Json.record?
    ["trace_id", "component", "event", "outcome", "error_code", "object", "key"] false p j
  return {
    traceId := ← r.required "trace_id" Json.toText?
    component := ← r.required "component" Json.toText?
    event := ← r.required "event" Json.toText?
    outcome := ← r.required "outcome" Json.toText?
    errorCode := ← r.nullable "error_code" Json.toText?
    object := ← r.nullable "object" ObjectHandle.decode
    key := ← r.nullable "key" PropertyKey.decode }

end ObjectModelEvent

namespace RealmConfig

def toJson (c : RealmConfig) : Json :=
  .record [("trace_prefix", .ofString c.tracePrefix),
    ("max_prototype_depth", .ofNat c.maxPrototypeDepth.toNat),
    ("record_events", .bool c.recordEvents), ("event_capacity", .ofNat c.eventCapacity.toNat)]

/-- Reads a configuration without validating it; fields that are left out keep their defaults. -/
def decode : Json.Decoder RealmConfig := fun p j => do
  let default : RealmConfig := {}
  let r ← Json.record?
    ["trace_prefix", "max_prototype_depth", "record_events", "event_capacity"] true p j
  return {
    tracePrefix := ← r.withDefault "trace_prefix" Json.toText? default.tracePrefix
    maxPrototypeDepth :=
      ← r.withDefault "max_prototype_depth" Json.toUInt32? default.maxPrototypeDepth
    recordEvents := ← r.withDefault "record_events" Json.toBool? default.recordEvents
    eventCapacity := ← r.withDefault "event_capacity" Json.toUInt64? default.eventCapacity }

end RealmConfig

namespace Intrinsics

def toJson (i : Intrinsics) : Json :=
  .record [("object_prototype", i.objectPrototype.toJson),
    ("function_prototype", i.functionPrototype.toJson),
    ("array_prototype", i.arrayPrototype.toJson), ("global", i.global.toJson),
    ("math", i.math.toJson)]

def decode : Json.Decoder Intrinsics := fun p j => do
  let r ← Json.record?
    ["object_prototype", "function_prototype", "array_prototype", "global", "math"] false p j
  return {
    objectPrototype := ← r.required "object_prototype" ObjectHandle.decode
    functionPrototype := ← r.required "function_prototype" ObjectHandle.decode
    arrayPrototype := ← r.required "array_prototype" ObjectHandle.decode
    global := ← r.required "global" ObjectHandle.decode
    math := ← r.required "math" ObjectHandle.decode }

end Intrinsics

namespace LiteralEntry

/-- The tagged record of an entry. -/
def toJson : LiteralEntry → Json
  | data key value =>
    .record [("kind", .ofString "data"), ("key", key.toJson), ("value", value.toJson)]
  | getter key function =>
    .record [("kind", .ofString "getter"), ("key", key.toJson), ("function", function.toJson)]
  | setter key function =>
    .record [("kind", .ofString "setter"), ("key", key.toJson), ("function", function.toJson)]

def decode : Json.Decoder LiteralEntry := fun p j => do
  let (kind, p, j) ← Json.tagged? "kind" ["data", "getter", "setter"] p j
  match kind with
  | "data" =>
    let r ← Json.record? ["key", "value"] false p j
    return data (← r.required "key" PropertyKey.decode) (← r.required "value" Value.decode)
  | "getter" => accessor getter p j
  | _ => accessor setter p j
where
  accessor (entry : PropertyKey → ObjectHandle → LiteralEntry) : Json.Decoder LiteralEntry :=
    fun p j => do
      let r ← Json.record? ["key", "function"] false p j
      return entry (← r.required "key" PropertyKey.decode)
        (← r.required "function" ObjectHandle.decode)

end LiteralEntry

namespace ObjectLiteral

def toJson (literal : ObjectLiteral) : Json :=
  .record [("entries", .ofList LiteralEntry.toJson literal.entries)]

def decode : Json.Decoder ObjectLiteral := fun p j => do
  let r ← Json.record? ["entries"] false p j
  return ⟨← r.required "entries" (Json.toList? LiteralEntry.decode)⟩

end ObjectLiteral

end ObjectModel
