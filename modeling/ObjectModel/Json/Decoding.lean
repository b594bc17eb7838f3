import ObjectModel.Json.Number

/-!
# Decoding JSON

Decoders turn a tree into a value of a type, or refuse it with `none`.  This file has the rules that
all of them share:

* a record is an object with its field names, or an array of its fields in order; a known field must
  not be repeated, and other fields are ignored unless the record is closed;
* a choice between plain names is a string, or an object whose one member has that name;
* a tagged record is a record with one more field that names its alternative, or an array that
  starts with that name.

A tagged record is *held*, that is, read as a tree, before its alternative is known.  Whatever is
held has to be representable: its strings denote texts, its numbers are doubles, and nothing in it
lies deeper than `depthLimit`.  What is ignored without being held may be any tree at all.
-/

namespace ObjectModel.Json

/-- Where a tree stands: how many arrays and objects it is inside of, and whether it is held. -/
structure Place where
  depth : Nat
  held : Bool
deriving DecidableEq, Inhabited

namespace Place

/-- The place of a whole text. -/
def root : Place := ⟨0, false⟩

/-- The place of an item or a member. -/
def inner (p : Place) : Place := { p with depth := p.depth + 1 }

/-- The same place, held. -/
def hold (p : Place) : Place := { p with held := true }

end Place

/-- A decoder of a type. -/
abbrev Decoder (α : Type) := Place → Json → Option α

/-- The number of arrays and objects that a held tree may be inside of, counted from the root. -/
def depthLimit : Nat := 127

mutual

/-- May the tree be held at this depth? -/
def isHoldable (depth : Nat) : Json → Bool
  | null => true
  | bool _ => true
  | number n => n.toDouble?.isSome
  | string text => text.isSome
  | array items => depth < depthLimit && areHoldable (depth + 1) items
  | object members => depth < depthLimit && membersAreHoldable (depth + 1) members

def areHoldable (depth : Nat) : List Json → Bool
  | [] => true
  | j :: rest => isHoldable depth j && areHoldable depth rest

def membersAreHoldable (depth : Nat) : List (Option String × Json) → Bool
  | [] => true
  | (name, j) :: rest => name.isSome && isHoldable depth j && membersAreHoldable depth rest

end

/-! ## Plain values -/

def toBool? : Decoder Bool
  | _, bool b => some b
  | _, _ => none

def toText? : Decoder String
  | _, string text => text
  | _, _ => none

def toDouble? : Decoder Double
  | _, number n => n.toDouble?
  | _, _ => none

/-- An integer below a bound. -/
def toNatBelow? (bound : Nat) : Decoder Nat
  | _, number n => n.toNat?.filter (· < bound)
  | _, _ => none

def toUInt32? : Decoder UInt32 := fun p j => (toNatBelow? (2 ^ 32) p j).map UInt32.ofNat

def toUInt64? : Decoder UInt64 := fun p j => (toNatBelow? (2 ^ 64) p j).map UInt64.ofNat

/-- Null for `none`. -/
def toOption? {α : Type} (decode : Decoder α) : Decoder (Option α)
  | _, null => some none
  | p, j => (decode p j).map some

def toList? {α : Type} (decode : Decoder α) : Decoder (List α)
  | p, array items => items.mapM (decode p.inner)
  | _, _ => none

/-- The members of an object, if all names denote texts. -/
def namedMembers? (members : List (Option String × Json)) : Option (List (String × Json)) :=
  members.mapM fun (name, j) => name.map (·, j)

/-! ## Records -/

/-- The fields of a record that were found. -/
structure Record where
  place : Place
  /-- The record was given as an array. -/
  positional : Bool
  fields : List (String × Json)

/-- Do two of the fields have the same name? -/
def hasRepeats : List (String × Json) → Bool
  | [] => false
  | (name, _) :: rest => rest.any (·.1 == name) || hasRepeats rest

/-- The fields among `names` that a tree gives. -/
def record? (names : List String) (closed : Bool) (p : Place) : Json → Option Record
  | object members => do
    let members ← namedMembers? members
    let fields := members.filter fun (name, _) => names.contains name
    if hasRepeats fields || (closed && fields.length != members.length) then none
    else some ⟨p.inner, false, fields⟩
  | array items =>
    if items.length ≤ names.length then some ⟨p.inner, true, names.zip items⟩ else none
  | _ => none

namespace Record

variable {α : Type}

def field? (r : Record) (name : String) : Option Json := r.fields.lookup name

/-- A field that has to be there. -/
def required (r : Record) (name : String) (decode : Decoder α) : Option α := do
  decode r.place (← r.field? name)

/-- A field with a default. -/
def withDefault (r : Record) (name : String) (decode : Decoder α) (default : α) : Option α :=
  match r.field? name with
  | some j => decode r.place j
  | none => some default

/-- A field that may be null, or absent unless the record is an array. -/
def nullable (r : Record) (name : String) (decode : Decoder α) : Option (Option α) :=
  match r.field? name with
  | some j => toOption? decode r.place j
  | none => if r.positional then none else some none

/-- A field that may be null or absent. -/
def optional (r : Record) (name : String) (decode : Decoder α) : Option (Option α) :=
  r.withDefault name (toOption? decode) none

/-- A field in which null is a value of its own, different from absence. -/
def tristate (r : Record) (name : String) (decode : Decoder α) : Option (Option (Option α)) :=
  r.withDefault name (fun p j => (toOption? decode p j).map some) none

end Record

/-! ## Alternatives -/

/-- Nothing, where an alternative has no content.  What is held may also be an empty object. -/
def isNothing (p : Place) : Json → Bool
  | null => true
  | object [] => p.held
  | _ => false

/-- An alternative by its name, with its content if it has one: a string, or an object with one
member. -/
def alternative? : Json → Option (String × Option Json)
  | string (some name) => some (name, none)
  | object [(some name, content)] => some (name, some content)
  | _ => none

/-- One of some plain names. -/
def plainName? (names : List String) : Decoder String := fun p j => do
  let (name, content) ← alternative? j
  if names.contains name && content.all (isNothing p.inner) then some name else none

/-- A value whose alternatives are all plain names. -/
def toChoice? {α : Type} (choices : List (String × α)) : Decoder α := fun p j => do
  choices.lookup (← plainName? (choices.map Prod.fst) p j)

/-- The name of an alternative in a tag.  What is held may also give its number. -/
def tagName? (names : List String) (p : Place) : Json → Option String
  | string (some name) => if names.contains name then some name else none
  | number n => if p.held then n.toNat?.bind fun k => names[k]? else none
  | _ => none

/-- A tagged record: the alternative, and the tree of its other fields, which is held. -/
def tagged? (tag : String) (names : List String) (p : Place) (j : Json) :
    Option (String × Place × Json) :=
  if !(p.held || isHoldable p.depth j) then none
  else match j with
    | object members =>
      match members.filter (·.1 == some tag) with
      | [(_, name)] => do
        return (← tagName? names p name, p.hold, object (members.filter (·.1 != some tag)))
      | _ => none
    | array (name :: rest) => do return (← tagName? names p name, p.hold, array rest)
    | _ => none

end ObjectModel.Json
