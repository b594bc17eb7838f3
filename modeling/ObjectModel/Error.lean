import ObjectModel.Key
import ObjectModel.Value

/-!
# Errors of the object model

A `DefineError` is a rejected property definition; it names the cause and, where there is one, the
property.  An `ObjectError` is whatever an operation on objects can fail with.  Each kind of error
has a stable code, and each error a message.
-/

namespace ObjectModel

/-- Why a definition was rejected, without the property. -/
inductive DefineErrorKind where
  | descriptorMismatch
  | invalidWritableDescriptor
  | nonconfigurableRedefined
  | nonwritableModified
  | notExtensible
deriving DecidableEq, Inhabited

/-- The stable code of a kind of rejection. -/
def DefineErrorKind.code : DefineErrorKind → String
  | descriptorMismatch => "OM-DEFINE-0001"
  | invalidWritableDescriptor => "OM-DEFINE-0002"
  | nonconfigurableRedefined => "OM-DEFINE-0003"
  | nonwritableModified => "OM-DEFINE-0004"
  | notExtensible => "OM-DEFINE-0005"

/-- A rejected property definition. -/
inductive DefineError where
  /-- The literal has a value and accessor fields. -/
  | descriptorMismatch
  /-- The literal has `writable` and accessor fields. -/
  | invalidWritableDescriptor
  | nonconfigurableRedefined (key : PropertyKey)
  | nonwritableModified (key : PropertyKey)
  | notExtensible (key : PropertyKey)
deriving DecidableEq, Inhabited

namespace DefineError

def kind : DefineError → DefineErrorKind
  | descriptorMismatch => .descriptorMismatch
  | invalidWritableDescriptor => .invalidWritableDescriptor
  | nonconfigurableRedefined _ => .nonconfigurableRedefined
  | nonwritableModified _ => .nonwritableModified
  | notExtensible _ => .notExtensible

def code (e : DefineError) : String := e.kind.code

def message : DefineError → String
  | descriptorMismatch => "TypeError: property descriptor mixes `value` with accessor fields"
  | invalidWritableDescriptor =>
    "TypeError: property descriptor combines `writable` with accessor fields"
  | nonconfigurableRedefined key =>
    "TypeError: cannot redefine non-configurable property '" ++ key.text ++ "'"
  | nonwritableModified key =>
    "TypeError: cannot modify non-writable property '" ++ key.text ++ "'"
  | notExtensible key =>
    "TypeError: cannot define property '" ++ key.text ++ "', object is not extensible"

end DefineError

/-- A failed operation on objects. -/
inductive ObjectError where
  | define (e : DefineError)
  | objectNotFound (h : ObjectHandle)
  | notCallable (h : ObjectHandle)
  /-- Raised by the body of a host function. -/
  | typeError (detail : String)
deriving DecidableEq, Inhabited

namespace ObjectError

def code : ObjectError → String
  | define e => e.code
  | objectNotFound _ => "OM-HEAP-0001"
  | notCallable _ => "OM-CALL-0001"
  | typeError _ => "OM-CALL-0002"

def message : ObjectError → String
  | define e => e.message
  | objectNotFound h => h.toText ++ " not found"
  | notCallable h => "TypeError: " ++ h.toText ++ " is not callable"
  | typeError detail => "TypeError: " ++ detail

/-- The kind of rejection, if the error is a rejected definition. -/
def defineKind? : ObjectError → Option DefineErrorKind
  | define e => some e.kind
  | _ => none

end ObjectError

end ObjectModel
