import Uplift.Text.Numeral
import Uplift.Yaml.Scalar

set_option autoImplicit false

/-! # YAML tokens

A text is cut into tokens. Indentation becomes tokens too: a block starts where a line is further
in than the block around it, and ends where a line is further out. A key is only known by the colon
after it, so every place where a key may start is remembered, and the tokens for the key and for the
block that it opens are put in there once the colon is found. -/

namespace Uplift.Yaml

/-- A token. -/
inductive Token where
  | version (major minor : Nat)
  | handle (name lead : String)
  | documentStart
  | documentEnd
  | blockSequence
  | blockMapping
  | blockEnd
  | flowSequence
  | flowSequenceEnd
  | flowMapping
  | flowMappingEnd
  | entry
  | separator
  | key
  | value
  | alias (name : String)
  | anchor (name : String)
  | tag (handle suffix : String)
  | scalar (text : String) (plain : Bool)
  deriving DecidableEq, Repr

namespace Token

/-- A place where a key may have started: the number of its first token, and where it stands. -/
structure Start where
  token : Nat
  required : Bool
  index : Nat
  line : Nat
  column : Nat

/-- The state between two tokens. There is a `Start` for each level of brackets, the innermost first;
    `indent` is the column of the innermost block, below zero outside of all blocks. -/
structure Scan where
  cursor : Cursor
  tokens : Array Token := #[]
  flow : Nat := 0
  indent : Int := -1
  outer : List Int := []
  keyAllowed : Bool := true
  starts : List (Option Start) := [none]

namespace Scan

/-- Add a token. -/
def push (s : Scan) (t : Token) : Scan := { s with tokens := s.tokens.push t }

/-- The first column that is inside the innermost block. -/
def inside (s : Scan) : Nat := (s.indent + 1).toNat

/-! ## Keys and blocks -/

/-- Forget the start of a key at this level. A start that had to be one is refused. -/
def dropStart (s : Scan) : Option Scan :=
  match s.starts with
  | some k :: rest => if k.required then none else some { s with starts := none :: rest }
  | _ => some s

/-- Remember this place as the start of a key, if there may be one. -/
def saveStart (s : Scan) : Option Scan :=
  if !s.keyAllowed then some s
  else (s.dropStart).map fun s =>
    let k : Start := {
      token := s.tokens.size
      required := s.flow = 0 && s.indent = s.cursor.column
      index := s.cursor.index
      line := s.cursor.line
      column := s.cursor.column }
    { s with starts := some k :: s.starts.tail }

/-- Forget the starts of keys that are on an earlier line or too far away. -/
def dropStale (s : Scan) : Option Scan := do
  let starts ← s.starts.mapM fun
    | none => some none
    | some k =>
      if k.line < s.cursor.line || k.index + 1024 < s.cursor.index then
        if k.required then none else some none
      else some (some k)
  return { s with starts }

/-- Open a block at a column, if it is further in; its token goes to a place among the others,
    or to the end. -/
def openBlock (s : Scan) (column : Nat) (place : Option Nat) (t : Token) : Scan :=
  if s.flow ≠ 0 || !(s.indent < column) then s
  else
    let tokens := match place with
      | some i => s.tokens.insertIdxIfInBounds i t
      | none => s.tokens.push t
    { s with indent := column, outer := s.indent :: s.outer, tokens }

/-- Close the blocks that are further in than a column. -/
def closeBlocks (column : Int) (s : Scan) : Scan :=
  if s.flow ≠ 0 then s else go s s.outer
where
  go (s : Scan) : List Int → Scan
    | [] => s
    | i :: rest =>
      if s.indent > column then
        go { s with tokens := s.tokens.push .blockEnd, indent := i, outer := rest } rest
      else s

/-! ## Directives, anchors and tags -/

/-- Characters of names. -/
def isWordChar (x : Char) : Bool := x.isAlphanum || x == '_' || x == '-'

/-- Characters of tags. -/
def isTagChar (verbatim : Bool) (x : Char) : Bool :=
  isWordChar x || ";/?:@&=+$.!~*'()".toList.contains x || (verbatim && ",[]".toList.contains x)

/-- One byte written as `%` and two hexadecimal digits. -/
def escapedByte? (c : Cursor) : Option (Nat × Cursor) :=
  match c.rest with
  | '%' :: a :: b :: _ => (hexNumber? [a, b]).map fun n => (n, c.skip 3)
  | _ => none

/-- The bytes that continue a character. -/
def escapedTail : Nat → Nat → Cursor → Option (Nat × Cursor)
  | 0, sum, c => some (sum, c)
  | n + 1, sum, c => do
    let (b, c) ← escapedByte? c
    if b / 64 = 2 then escapedTail n (sum * 64 + b % 64) c else none

/-- A character of a tag written in escaped bytes. -/
def escapedChar? (c : Cursor) : Option (Char × Cursor) := do
  let (b, c) ← escapedByte? c
  let (n, c) ←
    if b < 0x80 then some (b, c)
    else if b / 32 = 6 then escapedTail 1 (b % 32) c
    else if b / 16 = 14 then escapedTail 2 (b % 16) c
    else if b / 8 = 30 then escapedTail 3 (b % 8) c
    else none
  if n.isValidChar then return (Char.ofNat n, c) else none

/-- The characters of a tag. -/
def tagText (verbatim : Bool) : Nat → Cursor → Option (List Char × Cursor)
  | 0, c => some ([], c)
  | fuel + 1, c =>
    match c.peek? with
    | none => some ([], c)
    | some x =>
      let read :=
        if x == '%' then escapedChar? c
        else if isTagChar verbatim x then some (x, c.skip)
        else some ('\x00', c)
      match read with
      | none => none
      | some (y, c') =>
        if c'.index = c.index then some ([], c)
        else (tagText verbatim fuel c').map fun (w, c) => (y :: w, c)

/-- A name with exclamation marks around it; the second one may be missing. -/
def tagHandle (c : Cursor) : Option (List Char × Cursor) :=
  if !c.sees '!' then none
  else
    let word := (c.skip.rest).takeWhile isWordChar
    let c := c.skip (word.length + 1)
    if c.sees '!' then some ('!' :: word ++ ['!'], c.skip) else some ('!' :: word, c)

/-- A tag at `!`. -/
def scanTag (flow : Bool) (c : Cursor) : Option (Token × Cursor) := do
  let (t, c) ←
    match c.rest with
    | '!' :: '<' :: _ => do
      let (uri, c) ← tagText true c.rest.length (c.skip 2)
      if uri.isEmpty || !c.sees '>' then none
      some (Token.tag "" (String.ofList uri), c.skip)
    | _ => do
      let (name, c) ← tagHandle c
      let (suffix, c) ← tagText false c.rest.length c
      if name.length ≥ 2 && name.getLast? == some '!' then
        if suffix.isEmpty then none
        else some (Token.tag (String.ofList name) (String.ofList suffix), c)
      else
        let suffix := name.tail ++ suffix
        if suffix.isEmpty then some (Token.tag "" "!", c)
        else some (Token.tag "!" (String.ofList suffix), c)
  if isEdge c.rest || (flow && c.sees ',') then return (t, c) else none

/-- The name of an anchor or alias. -/
def scanName (c : Cursor) : Option (String × Cursor) :=
  let name := c.rest.takeWhile isWordChar
  let c := c.skip name.length
  let closed := isEdge c.rest || c.rest.head?.any ("?:,]\x7d%@".toList.contains ·) || c.sees '\x60'
  if name.isEmpty || !closed then none else some (String.ofList name, c)

/-- A number of a version, of at most nine digits. -/
def scanNumber (c : Cursor) : Option (Nat × Cursor) :=
  let ds := c.rest.takeWhile Char.isDigit
  if ds.isEmpty || ds.length > 9 then none else some (Text.ofDigits ds, c.skip ds.length)

/-- A directive at `%`, up to the end of its line. -/
def scanDirective (c : Cursor) : Option (Token × Cursor) := do
  let name := (c.skip.rest).takeWhile isWordChar
  let c := c.skip (name.length + 1)
  if !isEdge c.rest then none
  let c := c.skipWhile isBlank
  let (t, c) ←
    if name = "YAML".toList then do
      let (major, c) ← scanNumber c
      if !c.sees '.' then none
      let (minor, c) ← scanNumber c.skip
      some (Token.version major minor, c)
    else if name = "TAG".toList then do
      let (short, c) ← tagHandle c
      if short.getLast? ≠ some '!' then none
      if !c.rest.head?.any isBlank then none
      let (lead, c) ← tagText true c.rest.length (c.skipWhile isBlank)
      if lead.isEmpty || !isEdge c.rest then none
      some (Token.handle (String.ofList short) (String.ofList lead), c)
    else none
  let c := c.skipWhile isBlank
  let c := if c.sees '#' then c.skipWhile (!isBreak ·) else c
  if isLineEnd c.rest then return (t, c.skipBreak.2) else none

/-! ## Steps -/

/-- Move to the next token over blanks, comments and line ends. A tab is a blank only where no key
    may start. -/
def toNext : Nat → Scan → Scan
  | 0, s => s
  | fuel + 1, s =>
    let c := if s.cursor.index = 0 && s.cursor.sees '\ufeff' then s.cursor.skip else s.cursor
    let c := c.skipWhile fun x => x == ' ' || (x == '\t' && (s.flow ≠ 0 || !s.keyAllowed))
    let c := if c.sees '#' then c.skipWhile (!isBreak ·) else c
    if c.rest.head?.any isBreak then
      toNext fuel
        { s with cursor := c.skipBreak.2, keyAllowed := s.keyAllowed || s.flow = 0 }
    else { s with cursor := c }

/-- Add a token that takes `n` characters. -/
def take (s : Scan) (n : Nat) (t : Token) : Scan :=
  { s with cursor := s.cursor.skip n, tokens := s.tokens.push t }

/-- Add a token that was read up to `c`. -/
def takeTo (s : Scan) (r : Token × Cursor) : Scan :=
  { s with cursor := r.2, tokens := s.tokens.push r.1 }

/-- Between documents no block is open and no key may start. -/
def outside (s : Scan) : Option Scan :=
  ((s.closeBlocks (-1)).dropStart).map fun s => { s with keyAllowed := false }

/-- An opening bracket. -/
def openFlow (s : Scan) (t : Token) : Option Scan :=
  (s.saveStart).map fun s =>
    ({ s with starts := none :: s.starts, flow := s.flow + 1, keyAllowed := true }).take 1 t

/-- A closing bracket. -/
def closeFlow (s : Scan) (t : Token) : Option Scan :=
  (s.dropStart).map fun s =>
    let s := if s.flow = 0 then s else { s with starts := s.starts.tail, flow := s.flow - 1 }
    ({ s with keyAllowed := false }).take 1 t

/-- A mark in front of an entry or a key: outside brackets it may open a block here. -/
def openItem (s : Scan) (blockToken t : Token) (allowed : Bool) : Option Scan := do
  if s.flow = 0 && !s.keyAllowed then none
  let s := s.openBlock s.cursor.column none blockToken
  let s ← s.dropStart
  return ({ s with keyAllowed := allowed }).take 1 t

/-- A colon. -/
def colon (s : Scan) : Option Scan :=
  match s.starts with
  | some k :: rest =>
    let s := { s with tokens := s.tokens.insertIdxIfInBounds k.token .key, starts := none :: rest }
    let s := s.openBlock k.column (some k.token) .blockMapping
    some (({ s with keyAllowed := false }).take 1 .value)
  | _ => do
    if s.flow = 0 && !s.keyAllowed then none
    let s := s.openBlock s.cursor.column none .blockMapping
    return ({ s with keyAllowed := s.flow = 0 }).take 1 .value

/-- A node that may be a key: what `read` finds here. -/
def content (s : Scan) (read : Cursor → Option (Token × Cursor)) : Option Scan := do
  let s ← s.saveStart
  return { s.takeTo (← read s.cursor) with keyAllowed := false }

/-- A plain scalar; after a line end a new key may start. -/
def plainContent (s : Scan) : Option Scan := do
  let s ← s.saveStart
  let (text, broken, cursor) ← plain (s.flow ≠ 0) s.inside s.cursor
  return { s.takeTo (.scalar (String.ofList text) true, cursor) with keyAllowed := broken }

/-- A block scalar. -/
def blockContent (s : Scan) (literal : Bool) : Option Scan := do
  let s ← s.dropStart
  let (text, cursor) ← block literal s.inside s.cursor
  return { s.takeTo (.scalar (String.ofList text) false, cursor) with keyAllowed := true }

/-- Whether a plain scalar may start here. -/
def atPlain (flow : Bool) : List Char → Bool
  | [] => false
  | x :: next =>
    if isBlank x || isBreak x then false
    else if x == '-' then !next.head?.any isBlank
    else if x == '?' || x == ':' then !flow && !isEdge next
    else !(",[]\x7b\x7d#&*!|>'\"%@".toList.contains x || x == '\x60')

/-- The token that starts here. -/
def step (s : Scan) : Option Scan :=
  let c := s.cursor
  let flow := s.flow ≠ 0
  if c.column = 0 && c.sees '%' then do
    let s ← s.outside
    return s.takeTo (← scanDirective s.cursor)
  else if c.atMarker then
    (s.outside).map (·.take 3 (if c.sees '-' then .documentStart else .documentEnd))
  else match c.rest with
    | [] => none
    | x :: next =>
      if x == '[' then s.openFlow .flowSequence
      else if x == '{' then s.openFlow .flowMapping
      else if x == ']' then s.closeFlow .flowSequenceEnd
      else if x == '}' then s.closeFlow .flowMappingEnd
      else if x == ',' then
        (s.dropStart).map fun s => ({ s with keyAllowed := true }).take 1 .separator
      else if x == '-' && isEdge next then s.openItem .blockSequence .entry true
      else if x == '?' && (flow || isEdge next) then s.openItem .blockMapping .key (!flow)
      else if x == ':' && (flow || isEdge next) then s.colon
      else if x == '*' then
        s.content fun c => (scanName c.skip).map fun (n, c) => (.alias n, c)
      else if x == '&' then
        s.content fun c => (scanName c.skip).map fun (n, c) => (.anchor n, c)
      else if x == '!' then s.content (scanTag flow)
      else if x == '|' && !flow then s.blockContent true
      else if x == '>' && !flow then s.blockContent false
      else if x == '\'' || x == '"' then
        s.content fun c =>
          (quoted (x == '\'') c).map fun (t, c) => (.scalar (String.ofList t) false, c)
      else if atPlain flow c.rest then s.plainContent
      else none

/-- All tokens from here on. -/
def run : Nat → Scan → Option (List Token)
  | 0, _ => none
  | fuel + 1, s => do
    let s ← (toNext (s.cursor.rest.length + 1) s).dropStale
    let s := s.closeBlocks s.cursor.column
    if s.cursor.rest.isEmpty then
      let s ← s.outside
      return s.tokens.toList
    else run fuel (← s.step)

end Scan

/-- The tokens of a text. -/
def scan (s : String) : Option (List Token) :=
  let cs := s.toList
  if cs.all isAllowed then Scan.run (cs.length + 2) { cursor := { rest := cs } } else none

end Token

end Uplift.Yaml
