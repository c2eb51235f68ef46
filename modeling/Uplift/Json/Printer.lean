import Uplift.Double.Text
import Uplift.Json.Basic

set_option autoImplicit false

/-! # Writing JSON

Two layouts: compact, without blanks, and pretty, with two spaces a level. Member order is kept.
Strings escape quotes, backslashes and control characters only. -/

namespace Uplift.Json

open Text

/-- Doubles are positional from `1e-5` to below `1e16`. -/
def numberStyle : Double.Style := ⟨-5, 15⟩

/-- A hexadecimal digit in lower case. -/
def hexDigit (n : Nat) : Char := Nat.digitChar (n % 16)

/-- A character inside a string. -/
def escape (c : Char) : List Char :=
  if c = '"' then ['\\', '"']
  else if c = '\\' then ['\\', '\\']
  else if c = '\x08' then ['\\', 'b']
  else if c = '\x0c' then ['\\', 'f']
  else if c = '\n' then ['\\', 'n']
  else if c = '\r' then ['\\', 'r']
  else if c = '\t' then ['\\', 't']
  else if c.toNat < 0x20 then
    ['\\', 'u', '0', '0', hexDigit (c.toNat / 16), hexDigit c.toNat]
  else [c]

/-- A string in quotes. -/
def quote (s : String) : List Char := '"' :: s.toList.flatMap escape ++ ['"']

/-- An integer. -/
def intChars : Int → List Char
  | .ofNat n => digits n
  | .negSucc n => '-' :: digits (n + 1)

/-! ## Compact -/

mutual

/-- A value without blanks. -/
def compactChars : Json → List Char
  | .null => "null".toList
  | .bool true => "true".toList
  | .bool false => "false".toList
  | .int i => intChars i
  | .float d => d.chars numberStyle
  | .str s => quote s
  | .arr items => '[' :: compactItems items ++ [']']
  | .obj fields => '{' :: compactFields fields ++ ['}']

/-- Items with commas between them. -/
def compactItems : List Json → List Char
  | [] => []
  | [v] => compactChars v
  | v :: vs => compactChars v ++ ',' :: compactItems vs

/-- Members with commas between them. -/
def compactFields : List (String × Json) → List Char
  | [] => []
  | [(k, v)] => quote k ++ ':' :: compactChars v
  | (k, v) :: fs => quote k ++ ':' :: compactChars v ++ ',' :: compactFields fs

end

/-- A value on one line without blanks. -/
def compact (v : Json) : String := String.ofList v.compactChars

/-! ## Pretty -/

/-- A line break and the indentation of a level. -/
def newline (level : Nat) : List Char := '\n' :: List.replicate (2 * level) ' '

mutual

/-- A value whose first line is already indented; its other lines are at `level`. -/
def prettyChars (level : Nat) : Json → List Char
  | .null => "null".toList
  | .bool true => "true".toList
  | .bool false => "false".toList
  | .int i => intChars i
  | .float d => d.chars numberStyle
  | .str s => quote s
  | .arr [] => ['[', ']']
  | .arr (v :: vs) => '[' :: prettyItems (level + 1) (v :: vs) ++ newline level ++ [']']
  | .obj [] => ['{', '}']
  | .obj (f :: fs) => '{' :: prettyFields (level + 1) (f :: fs) ++ newline level ++ ['}']

/-- Items on lines of their own. -/
def prettyItems (level : Nat) : List Json → List Char
  | [] => []
  | [v] => newline level ++ prettyChars level v
  | v :: vs => newline level ++ prettyChars level v ++ ',' :: prettyItems level vs

/-- Members on lines of their own. -/
def prettyFields (level : Nat) : List (String × Json) → List Char
  | [] => []
  | [(k, v)] => newline level ++ quote k ++ ':' :: ' ' :: prettyChars level v
  | (k, v) :: fs =>
    newline level ++ quote k ++ ':' :: ' ' :: prettyChars level v ++ ',' :: prettyFields level fs

end

/-- A value over several lines, two spaces a level. -/
def pretty (v : Json) : String := String.ofList (v.prettyChars 0)

/-- The text of a document file: the pretty layout and a line break. -/
def fileText (v : Json) : String := v.pretty ++ "\n"

end Uplift.Json
