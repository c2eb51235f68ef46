set_option autoImplicit false

/-! # Places in a YAML text

Indentation carries meaning, so the rest of a text is kept together with its column, and with the
line and the number of characters before it, which limit how far a key may be from its colon. -/

namespace Uplift.Yaml

/-- Blanks inside a line. -/
def isBlank (c : Char) : Bool := c == ' ' || c == '\t'

/-- Characters that end a line. -/
def isBreak (c : Char) : Bool :=
  c == '\n' || c == '\r' || c == '\u0085' || c == '\u2028' || c == '\u2029'

/-- Characters that may stand in a text at all. -/
def isAllowed (c : Char) : Bool :=
  let n := c.toNat
  n == 0x9 || n == 0xA || n == 0xD || (0x20 ≤ n && n ≤ 0x7E) || n == 0x85 ||
    (0xA0 ≤ n && n ≤ 0xD7FF) || (0xE000 ≤ n && n ≤ 0xFFFD) || 0x10000 ≤ n

/-- Whether a text goes on with a blank or the end of a line, or is over. -/
def isEdge : List Char → Bool
  | [] => true
  | c :: _ => isBlank c || isBreak c

/-- Whether a text goes on with the end of a line, or is over. -/
def isLineEnd : List Char → Bool
  | [] => true
  | c :: _ => isBreak c

/-- A place in a text. -/
structure Cursor where
  rest : List Char
  index : Nat := 0
  line : Nat := 0
  column : Nat := 0
  deriving Repr

namespace Cursor

/-- The next character. -/
def peek? (c : Cursor) : Option Char := c.rest.head?

/-- Whether the text goes on with a character. -/
def sees (c : Cursor) (x : Char) : Bool := c.rest.head? == some x

/-- Move over `n` characters of a line. -/
def skip (c : Cursor) (n : Nat := 1) : Cursor :=
  { c with rest := c.rest.drop n, index := c.index + n, column := c.column + n }

/-- Move over the characters of a line that satisfy `p`. -/
def skipWhile (p : Char → Bool) (c : Cursor) : Cursor := c.skip (c.rest.takeWhile p).length

/-- Move over a line end, and say what it stands for: a line feed, or one of the two Unicode
    separators. -/
def skipBreak (c : Cursor) : List Char × Cursor :=
  match c.rest with
  | '\r' :: '\n' :: rest => (['\n'], { rest, index := c.index + 2, line := c.line + 1, column := 0 })
  | x :: rest =>
    if isBreak x then
      (if x == '\u2028' || x == '\u2029' then [x] else ['\n'],
        { rest, index := c.index + 1, line := c.line + 1, column := 0 })
    else ([], c)
  | [] => ([], c)

/-- Whether a line starts with the marker of a document's start or end. -/
def atMarker (c : Cursor) : Bool :=
  c.column == 0 &&
    match c.rest with
    | '-' :: '-' :: '-' :: rest => isEdge rest
    | '.' :: '.' :: '.' :: rest => isEdge rest
    | _ => false

end Cursor

end Uplift.Yaml
