import ObjectModel.Number.Layout

/-!
# JSON

JSON text as a tree.  The tree keeps what a reader of records has to see: the order of members,
repeated names, and numbers as they are written.  A string literal is `none` when one of its escapes
names half of a surrogate pair: such a literal is well formed but denotes no text.
-/

namespace ObjectModel

/-- A JSON text. -/
inductive Json where
  | null
  | bool (b : Bool)
  | number (n : Numeral)
  | string (text : Option String)
  | array (items : List Json)
  | object (members : List (Option String × Json))
deriving Inhabited

namespace Json

def ofString (s : String) : Json := string (some s)

def ofNat (n : Nat) : Json := number (.ofNat n)

/-- A number; infinities and not-a-numbers are written as null. -/
def ofDouble (x : Double) : Json :=
  match x.toJsonNumeral? with
  | some n => number n
  | none => null

/-- Null, or what is there. -/
def ofOption {α : Type} (f : α → Json) : Option α → Json
  | none => null
  | some a => f a

def ofList {α : Type} (f : α → Json) (as : List α) : Json := array (as.map f)

/-- The member of an object for what may be absent: none if it is. -/
def member {α : Type} (name : String) (f : α → Json) : Option α → List (String × Json)
  | none => []
  | some a => [(name, f a)]

/-- An object with the given members. -/
def record (members : List (String × Json)) : Json :=
  object (members.map fun (name, j) => (some name, j))

end Json

end ObjectModel
