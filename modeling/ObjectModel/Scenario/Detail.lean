import ObjectModel.Descriptor
import ObjectModel.Text.Quoted

/-!
# Structural text

The text of values, properties and descriptor literals inside the details of a failed expectation:
constructor names with their fields, text in quotes, and numbers in the layout
`NumberLayout.debug`.
-/

namespace ObjectModel.Detail

/-- A constructor with one field. -/
def applied (name field : String) : String := name ++ "(" ++ field ++ ")"

/-- A constructor with named fields. -/
def structured (name : String) (fields : List (String × String)) : String :=
  name ++ " \x7b " ++ ", ".intercalate (fields.map fun (field, text) => field ++ ": " ++ text) ++
    " \x7d"

def ofBool (b : Bool) : String := if b then "true" else "false"

def ofOption {α : Type} (f : α → String) : Option α → String
  | none => "None"
  | some a => applied "Some" (f a)

def ofHandle (h : ObjectHandle) : String := applied "ObjectHandle" (Nat.repr h.index.toNat)

def ofValue : Value → String
  | .undefined => "Undefined"
  | .null => "Null"
  | .bool b => applied "Bool" (ofBool b)
  | .number x => applied "Number" x.toDebugText
  | .string s => applied "Str" (Text.quoted s)
  | .object h => applied "Object" (ofHandle h)

def ofDescriptor : PropertyDescriptor → String
  | .data value writable enumerable configurable =>
    structured "Data" [("value", ofValue value), ("writable", ofBool writable),
      ("enumerable", ofBool enumerable), ("configurable", ofBool configurable)]
  | .accessor get set enumerable configurable =>
    structured "Accessor" [("get", ofOption ofHandle get), ("set", ofOption ofHandle set),
      ("enumerable", ofBool enumerable), ("configurable", ofBool configurable)]

def ofFields (d : DescriptorFields) : String :=
  structured "DescriptorFields"
    [("value", ofOption ofValue d.value), ("writable", ofOption ofBool d.writable),
      ("get", ofOption (ofOption ofHandle) d.get), ("set", ofOption (ofOption ofHandle) d.set),
      ("enumerable", ofOption ofBool d.enumerable),
      ("configurable", ofOption ofBool d.configurable)]

/-- A list of texts. -/
def ofTexts (texts : List String) : String :=
  "[" ++ ", ".intercalate (texts.map Text.quoted) ++ "]"

end ObjectModel.Detail
