import ObjectModel.Program

/-!
# Object initialisers

An object initialiser is a list of entries, each of which defines one property in source order.  A
getter and a setter of the same key become one accessor property, since each definition keeps what
the other one gave.
-/

namespace ObjectModel

/-- One entry of an object initialiser. -/
inductive LiteralEntry where
  | data (key : PropertyKey) (value : Value)
  | getter (key : PropertyKey) (function : ObjectHandle)
  | setter (key : PropertyKey) (function : ObjectHandle)
deriving DecidableEq, Inhabited

namespace LiteralEntry

def key : LiteralEntry → PropertyKey
  | data key _ | getter key _ | setter key _ => key

/-- The descriptor literal that the entry defines its key with. -/
def toFields : LiteralEntry → DescriptorFields
  | data _ value => .ofDescriptor (.openData value)
  | getter _ function =>
    { get := some (some function), enumerable := some true, configurable := some true }
  | setter _ function =>
    { set := some (some function), enumerable := some true, configurable := some true }

end LiteralEntry

/-- An object initialiser. -/
structure ObjectLiteral where
  entries : List LiteralEntry
deriving DecidableEq, Inhabited

namespace ObjectLiteral

variable {β σ : Type}

/-- Defines some entries on an object, one after the other. -/
def applyEntries (object : ObjectHandle) : List LiteralEntry → Program β σ Unit
  | [] => pure ()
  | entry :: rest => do
    let _ ← Program.define object entry.key entry.toFields
    applyEntries object rest

/-- Defines every entry on an existing object. -/
def applyTo (literal : ObjectLiteral) (object : ObjectHandle) : Program β σ Unit :=
  applyEntries object literal.entries

/-- Defines every entry on a new plain object. -/
def build (literal : ObjectLiteral) : Program β σ ObjectHandle := do
  let object ← Program.newObject
  literal.applyTo object
  return object

end ObjectLiteral

end ObjectModel
