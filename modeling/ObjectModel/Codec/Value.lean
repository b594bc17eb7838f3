import ObjectModel.Json.Decoding
import ObjectModel.Error

/-!
# JSON of values, keys and errors

A handle is its index and a key its text.  A value is a record of its type and its content, without
content for undefined and null; since JSON has no infinities and not-a-numbers, these numbers are
written as null and cannot be read back.
-/

namespace ObjectModel

namespace ObjectHandle

def toJson (h : ObjectHandle) : Json := .ofNat h.index.toNat

def decode : Json.Decoder ObjectHandle := fun p j => (Json.toUInt32? p j).map ObjectHandle.mk

end ObjectHandle

namespace PropertyKey

def toJson (key : PropertyKey) : Json := .ofString key.text

def decode : Json.Decoder PropertyKey := fun p j => (Json.toText? p j).map PropertyKey.mk

end PropertyKey

namespace Value

/-- The record of a value. -/
def toJson : Value → Json
  | undefined => .record [("type", .ofString "undefined")]
  | null => .record [("type", .ofString "null")]
  | bool b => .record [("type", .ofString "bool"), ("value", .bool b)]
  | number x => .record [("type", .ofString "number"), ("value", .ofDouble x)]
  | string s => .record [("type", .ofString "str"), ("value", .ofString s)]
  | object h => .record [("type", .ofString "object"), ("value", h.toJson)]

/-- The names of the types. -/
def typeNames : List String := ["undefined", "null", "bool", "number", "str", "object"]

/-- Reads the record of a value.  A value without content may have null for it; given as an array,
it has to.  An array names its type as tags do, an object as plain names are given. -/
def decode : Json.Decoder Value := fun p j => do
  let r ← Json.record? ["type", "value"] false p j
  let typeName := if r.positional then Json.tagName? typeNames else Json.plainName? typeNames
  let type ← r.required "type" typeName
  let withoutContent (v : Value) : Option Value :=
    match r.field? "value" with
    | none => if r.positional then none else some v
    | some .null => some v
    | some _ => none
  match type with
  | "undefined" => withoutContent undefined
  | "null" => withoutContent null
  | "bool" => bool <$> r.required "value" Json.toBool?
  | "number" => number <$> r.required "value" Json.toDouble?
  | "str" => string <$> r.required "value" Json.toText?
  | _ => object <$> r.required "value" ObjectHandle.decode

end Value

namespace DefineErrorKind

/-- The kinds of rejection by name. -/
def choices : List (String × DefineErrorKind) :=
  [("descriptor_mismatch", descriptorMismatch),
    ("invalid_writable_descriptor", invalidWritableDescriptor),
    ("nonconfigurable_redefined", nonconfigurableRedefined),
    ("nonwritable_modified", nonwritableModified), ("not_extensible", notExtensible)]

def name : DefineErrorKind → String
  | descriptorMismatch => "descriptor_mismatch"
  | invalidWritableDescriptor => "invalid_writable_descriptor"
  | nonconfigurableRedefined => "nonconfigurable_redefined"
  | nonwritableModified => "nonwritable_modified"
  | notExtensible => "not_extensible"

def toJson (kind : DefineErrorKind) : Json := .ofString kind.name

def decode : Json.Decoder DefineErrorKind := Json.toChoice? choices

end DefineErrorKind

namespace DefineError

/-- A rejection: its name, with the key it concerns if there is one. -/
def toJson : DefineError → Json
  | descriptorMismatch => .ofString "DescriptorMismatch"
  | invalidWritableDescriptor => .ofString "InvalidWritableDescriptor"
  | nonconfigurableRedefined key => concerning "NonconfigurableRedefined" key
  | nonwritableModified key => concerning "NonwritableModified" key
  | notExtensible key => concerning "NotExtensible" key
where
  concerning (name : String) (key : PropertyKey) : Json :=
    .record [(name, .record [("key", key.toJson)])]

def decode : Json.Decoder DefineError := fun p j => do
  let (name, content) ← Json.alternative? j
  let withKey (error : PropertyKey → DefineError) : Option DefineError := do
    let r ← Json.record? ["key"] false p.inner (← content)
    return error (← r.required "key" PropertyKey.decode)
  let plain (error : DefineError) : Option DefineError :=
    if content.all (Json.isNothing p.inner) then some error else none
  match name with
  | "DescriptorMismatch" => plain descriptorMismatch
  | "InvalidWritableDescriptor" => plain invalidWritableDescriptor
  | "NonconfigurableRedefined" => withKey nonconfigurableRedefined
  | "NonwritableModified" => withKey nonwritableModified
  | "NotExtensible" => withKey notExtensible
  | _ => none

end DefineError

namespace ObjectError

/-- An error: its name with what it concerns. -/
def toJson : ObjectError → Json
  | define e => .record [("Define", e.toJson)]
  | objectNotFound h => .record [("ObjectNotFound", h.toJson)]
  | notCallable h => .record [("NotCallable", h.toJson)]
  | typeError detail => .record [("TypeError", .ofString detail)]

def decode : Json.Decoder ObjectError := fun p j => do
  let (name, content) ← Json.alternative? j
  let content ← content
  match name with
  | "Define" => define <$> DefineError.decode p.inner content
  | "ObjectNotFound" => objectNotFound <$> ObjectHandle.decode p.inner content
  | "NotCallable" => notCallable <$> ObjectHandle.decode p.inner content
  | "TypeError" => typeError <$> Json.toText? p.inner content
  | _ => none

end ObjectError

end ObjectModel
