import ObjectModel.Json.Basic
import ObjectModel.Text.Hexadecimal

/-!
# Printing JSON

JSON text without blanks.  In strings, quotes, backslashes and control characters are escaped, the
latter by a letter where there is one; everything else stands for itself.
-/

namespace ObjectModel.Json

/-- A character inside a string literal. -/
def escapeChar (c : Char) : List Char :=
  if c = '"' then ['\\', '"']
  else if c = '\\' then ['\\', '\\']
  else if c = '\x08' then ['\\', 'b']
  else if c = '\x0c' then ['\\', 'f']
  else if c = '\n' then ['\\', 'n']
  else if c = '\r' then ['\\', 'r']
  else if c = '\t' then ['\\', 't']
  else if c.toNat < 0x20 then
    ['\\', 'u', '0', '0', Text.hexDigit (c.toNat / 16), Text.hexDigit (c.toNat % 16)]
  else [c]

/-- A string literal.  One that denotes no text is written as half of a surrogate pair. -/
def stringChars : Option String → List Char
  | some s => '"' :: (s.toList.flatMap escapeChar ++ ['"'])
  | none => "\"\\ud800\"".toList

mutual

/-- The text of a tree. -/
def chars : Json → List Char
  | null => "null".toList
  | bool b => (if b then "true" else "false").toList
  | number n => n.chars
  | string text => stringChars text
  | array items => '[' :: itemsChars items
  | object members => '{' :: membersChars members

/-- The items of an array and its closing bracket. -/
def itemsChars : List Json → List Char
  | [] => [']']
  | [j] => chars j ++ [']']
  | j :: rest => chars j ++ ',' :: itemsChars rest

/-- The members of an object and its closing bracket. -/
def membersChars : List (Option String × Json) → List Char
  | [] => ['}']
  | [(name, j)] => stringChars name ++ ':' :: (chars j ++ ['}'])
  | (name, j) :: rest => stringChars name ++ ':' :: (chars j ++ ',' :: membersChars rest)

end

/-- The text of a tree. -/
def render (j : Json) : String := String.ofList j.chars

end ObjectModel.Json
