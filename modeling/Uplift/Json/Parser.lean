import Uplift.Json.Number

set_option autoImplicit false

/-! # Reading JSON

A strict reader over lists of characters. It recurses on the number of arrays and objects that may
still be opened, which is also the limit of the format as it is used here: 127 levels are read, 128
are refused. Inside one level, items and members are read in a loop bounded by the length of the
text. -/

namespace Uplift.Json

/-- Blanks between tokens. -/
def isGap (c : Char) : Bool := c == ' ' || c == '\n' || c == '\r' || c == '\t'

/-- The text after the blanks. -/
def skipGap (cs : List Char) : List Char := cs.dropWhile isGap

/-! ## Strings -/

/-- The value of a hexadecimal digit. -/
def hexValue? (c : Char) : Option Nat :=
  if '0' ≤ c ∧ c ≤ '9' then some (c.toNat - '0'.toNat)
  else if 'a' ≤ c ∧ c ≤ 'f' then some (c.toNat - 'a'.toNat + 10)
  else if 'A' ≤ c ∧ c ≤ 'F' then some (c.toNat - 'A'.toNat + 10)
  else none

/-- The number written by four hexadecimal digits. -/
def unit? (a b c d : Char) : Option Nat := do
  let a ← hexValue? a
  let b ← hexValue? b
  let c ← hexValue? c
  let d ← hexValue? d
  return ((a * 16 + b) * 16 + c) * 16 + d

/-- The character of a lone unit, which is no surrogate. -/
def lone? (u : Nat) : Option Char := if 0xD800 ≤ u ∧ u ≤ 0xDFFF then none else some (Char.ofNat u)

/-- The character of a high and a low surrogate. -/
def paired? (u v : Nat) : Option Char :=
  if 0xD800 ≤ u ∧ u ≤ 0xDBFF ∧ 0xDC00 ≤ v ∧ v ≤ 0xDFFF then
    some (Char.ofNat (0x10000 + (u - 0xD800) * 0x400 + (v - 0xDC00)))
  else none

/-- The character of a one-letter escape. -/
def escaped? : Char → Option Char
  | '"' => some '"'
  | '\\' => some '\\'
  | '/' => some '/'
  | 'b' => some '\x08'
  | 'f' => some '\x0c'
  | 'n' => some '\n'
  | 'r' => some '\r'
  | 't' => some '\t'
  | _ => none

/-- Put a character in front of what the rest reads as. -/
def consChar (c : Option Char) (rest : Option (List Char × List Char)) :
    Option (List Char × List Char) := do
  let c ← c
  let (cs, rest) ← rest
  return (c :: cs, rest)

/-- The characters of a string up to its closing quote, and the text after it. -/
def stringBody : List Char → Option (List Char × List Char)
  | '"' :: rest => some ([], rest)
  | '\\' :: 'u' :: a :: b :: c :: d :: rest =>
    match unit? a b c d with
    | none => none
    | some u =>
      if 0xD800 ≤ u ∧ u ≤ 0xDBFF then
        match rest with
        | '\\' :: 'u' :: e :: f :: g :: h :: rest =>
          consChar ((unit? e f g h).bind (paired? u)) (stringBody rest)
        | _ => none
      else consChar (lone? u) (stringBody rest)
  | '\\' :: c :: rest => consChar (escaped? c) (stringBody rest)
  | c :: rest => if c.toNat < 0x20 then none else consChar (some c) (stringBody rest)
  | [] => none

/-! ## Values -/

/-- The text after a word. -/
def keyword (w : String) (v : Json) (cs : List Char) : Option (Json × List Char) :=
  (w.toList.isPrefixOf? cs).map fun rest => (v, rest)

/-- A value that is no array and no object. -/
def scalar (cs : List Char) : Option (Json × List Char) :=
  match cs with
  | 'n' :: _ => keyword "null" .null cs
  | 't' :: _ => keyword "true" (.bool true) cs
  | 'f' :: _ => keyword "false" (.bool false) cs
  | '"' :: rest => (stringBody rest).map fun (s, rest) => (.str (String.ofList s), rest)
  | _ => do
    let (n, rest) ← lexNumber cs
    let v ← n.value
    return (v, rest)

/-- A reader of one item: what it is and the text after it. -/
abbrev Reader (α : Type) := List Char → Option (α × List Char)

/-- The items of an array that is not empty, up to its closing bracket. -/
def items {α : Type} (item : Reader α) : Nat → Reader (List α)
  | 0, _ => none
  | fuel + 1, cs => do
    let (v, cs) ← item cs
    match skipGap cs with
    | ',' :: cs =>
      let (vs, cs) ← items item fuel cs
      return (v :: vs, cs)
    | ']' :: cs => return ([v], cs)
    | _ => none

/-- The items of an array after its opening bracket. -/
def array {α : Type} (item : Reader α) : Reader (List α) := fun cs =>
  match skipGap cs with
  | ']' :: rest => some ([], rest)
  | cs => items item cs.length cs

/-- One member of an object, and the text after it. -/
def member {α : Type} (item : Reader α) : Reader (String × α) := fun cs =>
  match skipGap cs with
  | '"' :: cs => do
    let (key, cs) ← stringBody cs
    match skipGap cs with
    | ':' :: cs =>
      let (v, cs) ← item cs
      return ((String.ofList key, v), cs)
    | _ => none
  | _ => none

/-- The members of an object that is not empty, up to its closing brace. -/
def members {α : Type} (item : Reader α) : Nat → Reader (List (String × α))
  | 0, _ => none
  | fuel + 1, cs => do
    let (m, cs) ← member item cs
    match skipGap cs with
    | ',' :: cs =>
      let (ms, cs) ← members item fuel cs
      return (m :: ms, cs)
    | '}' :: cs => return ([m], cs)
    | _ => none

/-- The members of an object after its opening brace, as they are written. -/
def object {α : Type} (item : Reader α) : Reader (List (String × α)) := fun cs =>
  match skipGap cs with
  | '}' :: rest => some ([], rest)
  | cs => members item cs.length cs

/-- A value with at most `depth` nested arrays and objects. A repeated key keeps its first place and
    takes its last value. -/
def value : Nat → Reader Json
  | 0 => fun cs => scalar (skipGap cs)
  | depth + 1 => fun cs =>
    match skipGap cs with
    | '[' :: rest => (array (value depth) rest).map fun (vs, rest) => (.arr vs, rest)
    | '{' :: rest =>
      (object (value depth) rest).map fun (ms, rest) => (.obj (Fields.ofList ms), rest)
    | cs => scalar cs

/-- The deepest nesting that is read. -/
def maxDepth : Nat := 127

/-- Read a document: one value with blanks around it. -/
def readChars (cs : List Char) : Option Json :=
  match value maxDepth cs with
  | some (v, rest) => if (skipGap rest).isEmpty then some v else none
  | none => none

/-- Read a document. -/
def read? (s : String) : Option Json := readChars s.toList

end Uplift.Json
