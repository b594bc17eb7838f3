import ObjectModel.Codec.Value
import ObjectModel.Define

/-!
# JSON of descriptors

A stored property is a tagged record.  In a descriptor literal absent fields are left out; a `get`
or `set` of null is an explicit `undefined`, while any other field that is null is absent.
-/

namespace ObjectModel

namespace DescriptorKind

def toJson : DescriptorKind → Json
  | generic => .ofString "generic"
  | data => .ofString "data"
  | accessor => .ofString "accessor"

def decode : Json.Decoder DescriptorKind :=
  Json.toChoice? [("generic", generic), ("data", data), ("accessor", accessor)]

end DescriptorKind

namespace DefineOutcome

def toJson (outcome : DefineOutcome) : Json := .ofString outcome.name

def decode : Json.Decoder DefineOutcome :=
  Json.toChoice? [("created", created), ("updated", updated), ("unchanged", unchanged)]

end DefineOutcome

namespace PropertyDescriptor

/-- The tagged record of a property. -/
def toJson : PropertyDescriptor → Json
  | data value writable enumerable configurable =>
    .record [("kind", .ofString "data"), ("value", value.toJson), ("writable", .bool writable),
      ("enumerable", .bool enumerable), ("configurable", .bool configurable)]
  | accessor get set enumerable configurable =>
    .record [("kind", .ofString "accessor"), ("get", .ofOption ObjectHandle.toJson get),
      ("set", .ofOption ObjectHandle.toJson set), ("enumerable", .bool enumerable),
      ("configurable", .bool configurable)]

def decode : Json.Decoder PropertyDescriptor := fun p j => do
  let (kind, p, j) ← Json.tagged? "kind" ["data", "accessor"] p j
  match kind with
  | "data" =>
    let r ← Json.record? ["value", "writable", "enumerable", "configurable"] false p j
    return data (← r.required "value" Value.decode) (← r.required "writable" Json.toBool?)
      (← r.required "enumerable" Json.toBool?) (← r.required "configurable" Json.toBool?)
  | _ =>
    let r ← Json.record? ["get", "set", "enumerable", "configurable"] false p j
    return accessor (← r.nullable "get" ObjectHandle.decode)
      (← r.nullable "set" ObjectHandle.decode) (← r.required "enumerable" Json.toBool?)
      (← r.required "configurable" Json.toBool?)

end PropertyDescriptor

namespace DescriptorFields

/-- The record of the fields that are present. -/
def toJson (d : DescriptorFields) : Json :=
  .record
    (Json.member "value" Value.toJson d.value ++ Json.member "writable" .bool d.writable ++
      Json.member "get" (.ofOption ObjectHandle.toJson) d.get ++
      Json.member "set" (.ofOption ObjectHandle.toJson) d.set ++
      Json.member "enumerable" .bool d.enumerable ++
      Json.member "configurable" .bool d.configurable)

/-- The names of the fields, in order. -/
def fieldNames : List String := ["value", "writable", "get", "set", "enumerable", "configurable"]

def decode : Json.Decoder DescriptorFields := fun p j => do
  let r ← Json.record? fieldNames false p j
  return {
    value := ← r.optional "value" Value.decode
    writable := ← r.optional "writable" Json.toBool?
    get := ← r.tristate "get" ObjectHandle.decode
    set := ← r.tristate "set" ObjectHandle.decode
    enumerable := ← r.optional "enumerable" Json.toBool?
    configurable := ← r.optional "configurable" Json.toBool? }

end DescriptorFields

end ObjectModel
