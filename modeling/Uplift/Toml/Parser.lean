import Uplift.Toml.Scalar

set_option autoImplicit false

/-! # Reading TOML

A document is read line by line: a line holds a key and a value, or a header that says which table
the following keys belong to. Arrays and inline tables may go over several lines and may be nested up
to a limit. -/

namespace Uplift.Toml

/-! ## Gaps and keys -/

/-- The text after blanks, line ends and comments; `comment` says whether the text starts within a
    comment. -/
def skipLines (comment : Bool) : List Char → Option (List Char)
  | [] => some []
  | '\n' :: rest => skipLines false rest
  | '\r' :: '\n' :: rest => skipLines false rest
  | c :: rest =>
    if comment then if isTextChar c then skipLines true rest else none
    else if isSpace c then skipLines false rest
    else if c = '#' then skipLines true rest
    else some (c :: rest)

/-- The text from the end of the line on, if there is nothing but a comment before it. -/
def skipComment : List Char → Option (List Char)
  | [] => some []
  | '\n' :: rest => some rest
  | '\r' :: '\n' :: rest => some rest
  | c :: rest => if isTextChar c then skipComment rest else none

/-- The text after the rest of a line that holds nothing more. -/
def endLine (cs : List Char) : Option (List Char) :=
  match skipSpace cs with
  | [] => some []
  | '#' :: rest => skipComment rest
  | cs => lineEnd? cs

/-- The characters of keys without quotes. -/
def isKeyChar (c : Char) : Bool := c.isAlphanum || c == '_' || c == '-'

/-- One part of a key. -/
def keyPart (cs : List Char) : Option (String × List Char) :=
  match shortString? cs with
  | some (s, rest) => some (String.ofList s, rest)
  | none =>
    let name := cs.takeWhile isKeyChar
    if name.isEmpty then none else some (String.ofList name, cs.dropWhile isKeyChar)

/-- The parts of a key: those before the last one, and the last one. -/
def key : Nat → List Char → Option ((List String × String) × List Char)
  | 0, _ => none
  | fuel + 1, cs => do
    let (part, cs) ← keyPart cs
    match skipSpace cs with
    | '.' :: rest =>
      let ((path, last), rest) ← key fuel (skipSpace rest)
      return ((part :: path, last), rest)
    | rest => return (([], part), rest)

/-! ## Values -/

/-- A reader of a value. -/
abbrev Reader := List Char → Option (Toml × List Char)

/-- The items of an array up to its closing bracket. -/
def arrayItems (value : Reader) : Nat → List Char → Option (List Toml × List Char)
  | 0, _ => none
  | fuel + 1, cs => do
    match ← skipLines false cs with
    | ']' :: rest => return ([], rest)
    | cs =>
      let (item, cs) ← value cs
      match ← skipLines false cs with
      | ',' :: rest =>
        let (items, rest) ← arrayItems value fuel rest
        return (item :: items, rest)
      | ']' :: rest => return ([item], rest)
      | _ => none

/-- A key and its value, put into a table. -/
def keyValue (value : Reader) (origin : Origin) (fields : Fields Toml) (cs : List Char) :
    Option (Fields Toml × List Char) := do
  let ((path, last), cs) ← key cs.length cs
  let cs ← Text.dropPrefix? ['='] cs
  let (v, cs) ← value (skipSpace cs)
  let (_, fields) ← assign path last v origin fields
  return (fields, cs)

/-- The fields of an inline table up to its closing brace. -/
def inlineFields (value : Reader) : Nat → Fields Toml → List Char →
    Option (Fields Toml × List Char)
  | 0, _, _ => none
  | fuel + 1, fields, cs => do
    match ← skipLines false cs with
    | '}' :: rest => return (fields, rest)
    | cs =>
      let (fields, cs) ← keyValue value .inline fields cs
      match ← skipLines false cs with
      | ',' :: rest => inlineFields value fuel fields rest
      | '}' :: rest => return (fields, rest)
      | _ => none

/-- A value with at most `depth` nested arrays and inline tables. -/
def value : Nat → Reader
  | 0 => fun cs => if cs.head? = some '[' ∨ cs.head? = some '{' then none else scalar? cs
  | depth + 1 => fun cs =>
    match cs with
    | '[' :: rest =>
      (arrayItems (value depth) cs.length rest).map fun (items, rest) => (.arr false items, rest)
    | '{' :: rest =>
      (inlineFields (value depth) cs.length [] rest).map fun (fields, rest) =>
        (.table .inline fields, rest)
    | cs => scalar? cs

/-- The deepest nesting that is read. -/
def maxDepth : Nat := 80

/-! ## Documents -/

/-- A header: whether it adds to an array of tables, the path of its table, and the text after its
    line. -/
def header : List Char → Option ((Bool × List String × String) × List Char)
  | '[' :: '[' :: rest => do
    let ((path, last), rest) ← key rest.length (skipSpace rest)
    let rest ← Text.dropPrefix? [']', ']'] rest
    return ((true, path, last), ← endLine rest)
  | '[' :: rest => do
    let ((path, last), rest) ← key rest.length (skipSpace rest)
    let rest ← Text.dropPrefix? [']'] rest
    return ((false, path, last), ← endLine rest)
  | _ => none

/-- The lines of a document; `current` is the path of the table of the last header. -/
def lines : Nat → List String → Fields Toml → List Char → Option (Fields Toml)
  | 0, _, _, _ => none
  | fuel + 1, current, root, cs => do
    match ← skipLines false cs with
    | [] => return root
    | '[' :: rest =>
      let ((isItem, path, last), rest) ← header ('[' :: rest)
      let edit := if isItem then openItem last else openTable last
      let (_, root) ← within false edit path .header root
      lines fuel (path ++ [last]) root rest
    | cs =>
      let ((path, last), cs) ← key cs.length cs
      let cs ← Text.dropPrefix? ['='] cs
      let (v, cs) ← value maxDepth (skipSpace cs)
      let rest ← endLine cs
      let (_, root) ← within false (assign path last v) current .header root
      lines fuel current root rest

/-- Read a document. A byte order mark in front of it is left out. -/
def read? (s : String) : Option (Fields Toml) :=
  let cs := match s.toList with
    | '\ufeff' :: rest => rest
    | cs => cs
  lines (cs.length + 1) [] [] cs

end Uplift.Toml
