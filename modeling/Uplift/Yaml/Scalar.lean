import Uplift.Json.Parser
import Uplift.Yaml.Cursor

set_option autoImplicit false

/-! # The text of YAML scalars

Plain and quoted scalars may run over several lines, which are folded: one line end is a space, more
of them are the line ends after the first. Block scalars keep their lines (`|`) or fold them (`>`),
and say how many line ends are kept at the end. Every loop is bounded by the length of the text. -/

namespace Uplift.Yaml

/-! ## Folding -/

/-- Blanks and line ends between two words. -/
structure Gap where
  blanks : List Char := []
  broken : Bool := false
  firstBreak : List Char := []
  moreBreaks : List Char := []

/-- What a gap stands for in a folded text. -/
def Gap.text (g : Gap) : List Char :=
  if !g.broken then g.blanks
  else if g.firstBreak = ['\n'] then if g.moreBreaks = [] then [' '] else g.moreBreaks
  else g.firstBreak ++ g.moreBreaks

/-- Move over blanks and line ends. A tab in front of column `limit` of a new line is refused. -/
def gapFrom (limit : Nat) : Nat → Gap → Cursor → Option (Gap × Cursor)
  | 0, g, c => some (g, c)
  | fuel + 1, g, c =>
    match c.peek? with
    | none => some (g, c)
    | some x =>
      if isBlank x then
        if g.broken then
          if x == '\t' && c.column < limit then none else gapFrom limit fuel g c.skip
        else gapFrom limit fuel { g with blanks := g.blanks ++ [x] } c.skip
      else if isBreak x then
        let (text, c) := c.skipBreak
        if g.broken then gapFrom limit fuel { g with moreBreaks := g.moreBreaks ++ text } c
        else gapFrom limit fuel { g with blanks := [], broken := true, firstBreak := text } c
      else some (g, c)

/-! ## Plain scalars -/

/-- Characters that end a plain word inside brackets. -/
def isFlowMark (x : Char) : Bool := x == ',' || x == '[' || x == ']' || x == '{' || x == '}'

/-- One word of a plain scalar. Inside brackets a colon right before a bracket is refused. -/
def plainWord (flow : Bool) : Nat → Cursor → Option (List Char × Cursor)
  | 0, c => some ([], c)
  | fuel + 1, c =>
    match c.rest with
    | [] => some ([], c)
    | x :: next =>
      if isBlank x || isBreak x then some ([], c)
      else if flow && x == ':' && next.head?.any (fun y => isFlowMark y || y == '?') then none
      else if (x == ':' && isEdge next) || (flow && isFlowMark x) then some ([], c)
      else (plainWord flow fuel c.skip).map fun (w, c) => (x :: w, c)

/-- A plain scalar after `text`, with its lines at column `indent` or more outside brackets. The flag
    says whether it ends after a line end. -/
def plainFrom (flow : Bool) (indent : Nat) : Nat → List Char → Gap → Cursor →
    Option (List Char × Bool × Cursor)
  | 0, text, gap, c => some (text, gap.broken, c)
  | fuel + 1, text, gap, c =>
    if c.atMarker || c.sees '#' then some (text, gap.broken, c)
    else do
      let (word, c) ← plainWord flow c.rest.length c
      let (text, gap) := if word.isEmpty then (text, gap) else (text ++ gap.text ++ word, {})
      if c.rest.isEmpty || !isEdge c.rest then return (text, gap.broken, c)
      let (gap, c) ← gapFrom indent c.rest.length gap c
      if !flow && c.column < indent then return (text, gap.broken, c)
      plainFrom flow indent fuel text gap c

/-- A plain scalar. -/
def plain (flow : Bool) (indent : Nat) (c : Cursor) : Option (List Char × Bool × Cursor) :=
  plainFrom flow indent (c.rest.length + 1) [] {} c

/-! ## Quoted scalars -/

/-- The value of a number of hexadecimal digits. -/
def hexNumber? (cs : List Char) : Option Nat :=
  cs.foldlM (fun n c => (Json.hexValue? c).map (n * 16 + ·)) 0

/-- A character written by `width` hexadecimal digits. -/
def hexChar? (width : Nat) (c : Cursor) : Option (Char × Cursor) := do
  if c.rest.length < width then none
  let n ← hexNumber? (c.rest.take width)
  if n.isValidChar then return (Char.ofNat n, c.skip width) else none

/-- The character of an escape after its backslash. -/
def escape? (c : Cursor) : Option (Char × Cursor) :=
  let one (x : Char) : Option (Char × Cursor) := some (x, c.skip)
  match c.peek? with
  | some '0' => one '\x00'
  | some 'a' => one '\x07'
  | some 'b' => one '\x08'
  | some 't' | some '\t' => one '\t'
  | some 'n' => one '\n'
  | some 'v' => one '\x0b'
  | some 'f' => one '\x0c'
  | some 'r' => one '\r'
  | some 'e' => one '\x1b'
  | some ' ' => one ' '
  | some '"' => one '"'
  | some '/' => one '/'
  | some '\\' => one '\\'
  | some 'N' => one '\u0085'
  | some '_' => one '\u00a0'
  | some 'L' => one '\u2028'
  | some 'P' => one '\u2029'
  | some 'x' => hexChar? 2 c.skip
  | some 'u' => hexChar? 4 c.skip
  | some 'U' => hexChar? 8 c.skip
  | _ => none

/-- The quote of a scalar. -/
def quoteOf (single : Bool) : Char := if single then '\'' else '"'

/-- The characters of a quoted scalar up to a blank, a line end or the quote. The flag says that the
    line end was escaped. -/
def quotedWord (single : Bool) : Nat → Cursor → Option (List Char × Bool × Cursor)
  | 0, c => some ([], false, c)
  | fuel + 1, c =>
    let more (x : Char) (c : Cursor) : Option (List Char × Bool × Cursor) :=
      (quotedWord single fuel c).map fun (w, b, c) => (x :: w, b, c)
    match c.rest with
    | [] => some ([], false, c)
    | x :: next =>
      if isBlank x || isBreak x then some ([], false, c)
      else if single && x == '\'' && next.head? == some '\'' then more '\'' (c.skip 2)
      else if x == quoteOf single then some ([], false, c)
      else if !single && x == '\\' then
        if next.head?.any isBreak then some ([], true, c.skip.skipBreak.2)
        else (escape? c.skip).bind fun (y, c) => more y c
      else more x c.skip

/-- A quoted scalar after its opening quote and `text`. -/
def quotedFrom (single : Bool) : Nat → List Char → Cursor → Option (List Char × Cursor)
  | 0, _, _ => none
  | fuel + 1, text, c =>
    if c.atMarker || c.rest.isEmpty then none
    else do
      let (word, escaped, c) ← quotedWord single c.rest.length c
      let text := text ++ word
      if c.sees (quoteOf single) then return (text, c.skip)
      let (gap, c) ← gapFrom 0 c.rest.length { broken := escaped } c
      quotedFrom single fuel (text ++ gap.text) c

/-- A quoted scalar. -/
def quoted (single : Bool) (c : Cursor) : Option (List Char × Cursor) :=
  quotedFrom single (c.rest.length + 1) [] c.skip

/-! ## Block scalars -/

/-- What is kept of the line ends at the end. -/
inductive Chomp where
  | strip
  | clip
  | keep
  deriving DecidableEq

/-- The marks after `|` or `>`: chomping and indentation, in either order. -/
def blockHeader (c : Cursor) : Option (Chomp × Nat × Cursor) :=
  let chomp (c : Cursor) : Option (Chomp × Cursor) :=
    match c.peek? with
    | some '+' => some (.keep, c.skip)
    | some '-' => some (.strip, c.skip)
    | _ => none
  let width (c : Cursor) : Option (Option (Nat × Cursor)) :=
    match c.peek? with
    | some x =>
      if x == '0' then none
      else if x.isDigit then some (some (x.toNat - '0'.toNat, c.skip))
      else some none
    | none => some none
  match chomp c with
  | some (k, c) => (width c).map fun
    | some (n, c) => (k, n, c)
    | none => (k, 0, c)
  | none => (width c).map fun
    | some (n, c) =>
      match chomp c with
      | some (k, c) => (k, n, c)
      | none => (.clip, n, c)
    | none => (.clip, 0, c)

/-- Move over empty lines and the indentation of the next line. With `indent = 0` the widest
    indentation so far is looked for. -/
def blockBreaks (indent : Nat) : Nat → Nat → List Char → Cursor → Option (List Char × Nat × Cursor)
  | 0, widest, breaks, c => some (breaks, widest, c)
  | fuel + 1, widest, breaks, c =>
    let spaces := (c.rest.takeWhile (· == ' ')).length
    let c := c.skip (if indent = 0 then spaces else min spaces (indent - c.column))
    let widest := max widest c.column
    if (indent = 0 || c.column < indent) && c.sees '\t' then none
    else if isLineEnd c.rest && !c.rest.isEmpty then
      let (text, c) := c.skipBreak
      blockBreaks indent fuel widest (breaks ++ text) c
    else some (breaks, widest, c)

/-- The lines of a block scalar from the one that starts here. -/
def blockLines (literal : Bool) (indent : Nat) : Nat → List Char → List Char → List Char → Bool →
    Cursor → Option (List Char × List Char × List Char × Cursor)
  | 0, text, lead, trail, _, c => some (text, lead, trail, c)
  | fuel + 1, text, lead, trail, blankBefore, c =>
    if c.column ≠ indent || c.rest.isEmpty then some (text, lead, trail, c)
    else
      let blankHere := c.rest.head?.any isBlank
      let join :=
        if !literal && lead = ['\n'] && !blankBefore && !blankHere then
          if trail.isEmpty then [' '] else trail
        else lead ++ trail
      let line := c.rest.takeWhile (!isBreak ·)
      let (lead, c) := (c.skip line.length).skipBreak
      (blockBreaks indent (c.rest.length + 1) 0 [] c).bind fun (trail, _, c) =>
        blockLines literal indent fuel (text ++ join ++ line) lead trail blankHere c

/-- A block scalar inside a block at column `outer - 1`; `outer = 0` is outside of every block. -/
def block (literal : Bool) (outer : Nat) (c : Cursor) : Option (List Char × Cursor) := do
  let (chomp, width, c) ← blockHeader c.skip
  let c := c.skipWhile isBlank
  let c := if c.sees '#' then c.skipWhile (!isBreak ·) else c
  if !isLineEnd c.rest then none
  let c := c.skipBreak.2
  let fixed := if width = 0 then 0 else if outer = 0 then width else outer - 1 + width
  let (trail, widest, c) ← blockBreaks fixed (c.rest.length + 1) 0 [] c
  let indent := if fixed = 0 then max (max widest outer) 1 else fixed
  let (text, lead, trail, c) ← blockLines literal indent (c.rest.length + 1) [] [] trail false c
  let tail := match chomp with
    | .strip => []
    | .clip => lead
    | .keep => lead ++ trail
  return (text ++ tail, c)

end Uplift.Yaml
