import ObjectModel.Config
import ObjectModel.Number.Power
import ObjectModel.Text.Hexadecimal

/-!
# Configuration files

A configuration is written as a TOML document.  Its four settings are strings, integers and
booleans at top level, so those are all that is read here: a document with a table, an array, a
float or a date cannot be a configuration, whatever the rest of it says.

Each function takes characters and answers with what it read and the characters after it.
-/

namespace ObjectModel

namespace Toml

/-- A value that a setting may have. -/
inductive Setting where
  | string (s : String)
  | integer (n : Int)
  | boolean (b : Bool)
deriving DecidableEq, Inhabited

/-! ## Characters -/

/-- A blank inside a line. -/
def isBlank (c : Char) : Bool := c == ' ' || c == '\t'

def skipBlanks : List Char → List Char := List.dropWhile isBlank

/-- A tab or any character that is no control character. -/
def isPlain (c : Char) : Bool := c == '\t' || (0x20 ≤ c.toNat && c.toNat != 0x7F)

/-- The end of a line. -/
def newline? : List Char → Option (List Char)
  | '\n' :: rest => some rest
  | '\r' :: '\n' :: rest => some rest
  | _ => none

/-- The end of a line or of the document. -/
def lineEnd? : List Char → Option (List Char)
  | [] => some []
  | cs => newline? cs

/-- What may follow a value: blanks, a comment and the end of the line. -/
def restOfLine? (cs : List Char) : Option (List Char) :=
  match skipBlanks cs with
  | '#' :: rest => lineEnd? (rest.dropWhile isPlain)
  | rest => lineEnd? rest

/-! ## Strings -/

/-- The character with the given number of hexadecimal digits as its code. -/
def hexChar? (count : Nat) (cs : List Char) : Option (Char × List Char) := do
  if cs.length < count then none
  let digits ← (cs.take count).mapM Text.hexValue?
  let n := digits.foldl (fun n d => 16 * n + d) 0
  if n.isValidChar then some (Char.ofNat n, cs.drop count) else none

/-- An escaped character after its backslash. -/
def escape? : List Char → Option (Char × List Char)
  | 'b' :: rest => some ('\x08', rest)
  | 't' :: rest => some ('\t', rest)
  | 'n' :: rest => some ('\n', rest)
  | 'f' :: rest => some ('\x0c', rest)
  | 'r' :: rest => some ('\r', rest)
  | '"' :: rest => some ('"', rest)
  | '\\' :: rest => some ('\\', rest)
  | 'u' :: rest => hexChar? 4 rest
  | 'U' :: rest => hexChar? 8 rest
  | _ => none

/-- A basic string after its opening quote. -/
def basicString? : (fuel : Nat) → List Char → Option (List Char × List Char)
  | 0, _ => none
  | fuel + 1, cs =>
    match cs with
    | '"' :: rest => some ([], rest)
    | '\\' :: rest => do
      let (c, rest) ← escape? rest
      let (body, rest) ← basicString? fuel rest
      return (c :: body, rest)
    | c :: rest => do
      if !isPlain c then none
      let (body, rest) ← basicString? fuel rest
      return (c :: body, rest)
    | [] => none

/-- A literal string after its opening quote. -/
def literalString? (cs : List Char) : Option (List Char × List Char) :=
  let body := cs.takeWhile fun c => isPlain c && c != '\''
  match cs.drop body.length with
  | '\'' :: rest => some (body, rest)
  | _ => none

/-- Drops line ends and blanks. -/
def skipLines : List Char → List Char
  | '\r' :: '\n' :: rest => skipLines rest
  | c :: rest => if c == '\n' || isBlank c then skipLines rest else c :: rest
  | [] => []

/-- A string of several lines after its opening quotes.  One or two quotes stand for themselves;
three to five close the string, and all but the last three belong to it.  In a basic string, a
backslash at the end of a line joins it to the next character that is no blank. -/
def multiline? (quote : Char) (escapes : Bool) :
    (fuel : Nat) → List Char → Option (List Char × List Char)
  | 0, _ => none
  | fuel + 1, cs => do
    let quotes := cs.takeWhile (· == quote)
    if 6 ≤ quotes.length then none
    else if 3 ≤ quotes.length then some (quotes.drop 3, cs.drop quotes.length)
    else if 0 < quotes.length then
      let (body, rest) ← multiline? quote escapes fuel (cs.drop quotes.length)
      return (quotes ++ body, rest)
    else match newline? cs, cs with
      | some rest, _ =>
        let (body, rest) ← multiline? quote escapes fuel rest
        return ('\n' :: body, rest)
      | none, [] => none
      | none, c :: rest =>
        if escapes && c == '\\' then
          match newline? (skipBlanks rest) with
          | some rest => multiline? quote escapes fuel (skipLines rest)
          | none =>
            let (c, rest) ← escape? rest
            let (body, rest) ← multiline? quote escapes fuel rest
            return (c :: body, rest)
        else if isPlain c then
          let (body, rest) ← multiline? quote escapes fuel rest
          return (c :: body, rest)
        else none

/-- A string of several lines, from which a line end right after the opening quotes is dropped. -/
def multilineString? (quote : Char) (escapes : Bool) (cs : List Char) :
    Option (List Char × List Char) :=
  multiline? quote escapes (cs.length + 1) ((newline? cs).getD cs)

/-- A string of any of the four kinds. -/
def string? : List Char → Option (String × List Char)
  | '"' :: '"' :: '"' :: rest =>
    (multilineString? '"' true rest).map fun (body, rest) => (String.ofList body, rest)
  | '\'' :: '\'' :: '\'' :: rest =>
    (multilineString? '\'' false rest).map fun (body, rest) => (String.ofList body, rest)
  | '"' :: rest =>
    (basicString? (rest.length + 1) rest).map fun (body, rest) => (String.ofList body, rest)
  | '\'' :: rest => (literalString? rest).map fun (body, rest) => (String.ofList body, rest)
  | _ => none

/-! ## Integers -/

/-- Digits of a base, with single underscores between digits. -/
def digits? (base : Nat) (cs : List Char) : Option Nat :=
  let rec go (value : Nat) (afterDigit : Bool) : List Char → Option Nat
    | [] => if afterDigit then some value else none
    | '_' :: rest => if afterDigit then go value false rest else none
    | c :: rest => do
      let d ← Text.hexValue? c
      if d < base then go (base * value + d) true rest else none
  go 0 false cs

/-- An unsigned decimal integer, without leading zeros. -/
def decimal? : List Char → Option Nat
  | '0' :: _ :: _ => none
  | cs => digits? 10 cs

/-- A signed integer of 64 bits: decimal, or hexadecimal, octal or binary without a sign. -/
def integer? (cs : List Char) : Option Int := do
  let n : Int ← match cs with
    | '0' :: 'x' :: rest => (digits? 16 rest).map Int.ofNat
    | '0' :: 'o' :: rest => (digits? 8 rest).map Int.ofNat
    | '0' :: 'b' :: rest => (digits? 2 rest).map Int.ofNat
    | '-' :: rest => (decimal? rest).map fun n => -(n : Int)
    | '+' :: rest => (decimal? rest).map Int.ofNat
    | cs => (decimal? cs).map Int.ofNat
  if -(2 ^ 63) ≤ n ∧ n < 2 ^ 63 then some n else none

/-! ## Documents -/

/-- A character of a word: of a key or of a value that is no string. -/
def isWordChar (c : Char) : Bool := c.isAlphanum || c == '_' || c == '-' || c == '+'

/-- A value. -/
def setting? (cs : List Char) : Option (Setting × List Char) :=
  match string? cs with
  | some (s, rest) => some (.string s, rest)
  | none =>
    let word := cs.takeWhile isWordChar
    let rest := cs.drop word.length
    if word = "true".toList then some (.boolean true, rest)
    else if word = "false".toList then some (.boolean false, rest)
    else (integer? word).map fun n => (.integer n, rest)

/-- A key: a word, or a string of one line. -/
def key? (cs : List Char) : Option (String × List Char) :=
  match cs with
  | '"' :: rest =>
    (basicString? (rest.length + 1) rest).map fun (body, rest) => (String.ofList body, rest)
  | '\'' :: rest => (literalString? rest).map fun (body, rest) => (String.ofList body, rest)
  | _ =>
    let word := cs.takeWhile fun c => isWordChar c && c != '+'
    if word.isEmpty then none else some (String.ofList word, cs.drop word.length)

/-- The settings of a document, line by line. -/
def lines? : (fuel : Nat) → List Char → Option (List (String × Setting))
  | 0, _ => none
  | fuel + 1, cs =>
    match skipBlanks cs with
    | [] => some []
    | '#' :: rest => (restOfLine? ('#' :: rest)).bind (lines? fuel)
    | '\n' :: rest => lines? fuel rest
    | '\r' :: '\n' :: rest => lines? fuel rest
    | cs => do
      let (key, rest) ← key? cs
      match skipBlanks rest with
      | '=' :: rest =>
        let (setting, rest) ← setting? (skipBlanks rest)
        let rest ← restOfLine? rest
        return (key, setting) :: (← lines? fuel rest)
      | _ => none

/-- The settings of a document, which may start with a byte order mark. -/
def document? (text : String) : Option (List (String × Setting)) :=
  let cs := match text.toList with
    | '\ufeff' :: rest => rest
    | cs => cs
  lines? (cs.length + 1) cs

end Toml

namespace RealmConfig

/-- Changes one setting, if it has that name and type and is in range. -/
def set? (c : RealmConfig) : String × Toml.Setting → Option RealmConfig
  | ("trace_prefix", .string s) => some { c with tracePrefix := s }
  | ("max_prototype_depth", .integer n) =>
    if 0 ≤ n ∧ n < 2 ^ 32 then some { c with maxPrototypeDepth := UInt32.ofNat n.toNat } else none
  | ("record_events", .boolean b) => some { c with recordEvents := b }
  | ("event_capacity", .integer n) =>
    if 0 ≤ n then some { c with eventCapacity := UInt64.ofNat n.toNat } else none
  | _ => none

/-- The configuration that a document describes, not yet validated.  No setting may be repeated. -/
def read? (text : String) : Option RealmConfig := do
  let settings ← Toml.document? text
  if (settings.map Prod.fst).Nodup then settings.foldlM set? {} else none

/-- The valid configuration that a document describes. -/
def ofToml (text : String) : Except ConfigError RealmConfig :=
  match read? text with
  | some c => c.validate
  | none => .error .parse

/-- The valid configuration in a file: the defaults if there is none. -/
def ofFile (content : Option ByteArray) : Except ConfigError RealmConfig :=
  match content with
  | none => .ok {}
  | some bytes =>
    match String.fromUTF8? bytes with
    | some text => ofToml text
    | none => .error .io

end RealmConfig

end ObjectModel
