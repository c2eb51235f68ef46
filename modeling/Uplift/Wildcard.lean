import Uplift.Glob
import Uplift.Text.Numeral
import Uplift.Text.Split

set_option autoImplicit false

/-! # Wildcard patterns

The patterns by which the files of a directory are listed. `*` stands for any characters, `?` for one,
`[a-z]` for one of a set and `[!a-z]` for one outside of it. `**` stands for any directories and has to be
a component of its own. A pattern is read as a whole and then component by component, and the names in a
directory are matched with the last component. `escape` makes a pattern of a text that stands for itself
throughout. -/

namespace Uplift

/-- One step of a wildcard pattern. -/
inductive WildcardToken where
  /-- The character itself. -/
  | char (c : Char)
  /-- One character, `?`. -/
  | any
  /-- Any characters, `*`. -/
  | many
  /-- Any directories, `**`. -/
  | deep
  /-- One character inside or outside of the ranges, `[...]`. -/
  | oneOf (negated : Bool) (ranges : List (Char × Char))
  deriving DecidableEq, Repr

/-- Why a pattern was refused, and near which of its characters. -/
inductive WildcardFault where
  | stars (position : Nat)
  | deepInside (position : Nat)
  | openSet (position : Nat)
  deriving DecidableEq, Repr

/-- The wording of a pattern fault. -/
def WildcardFault.message (fault : WildcardFault) : String :=
  let (position, cause) := match fault with
    | .stars n => (n, "wildcards are either regular `*` or recursive `**`")
    | .deepInside n => (n, "recursive wildcards must form a single path component")
    | .openSet n => (n, "invalid range pattern")
  "Pattern syntax error near position " ++ Text.decimal position ++ ": " ++ cause

/-- A wildcard pattern, component by component. -/
structure Wildcard where
  components : List (List WildcardToken)
  deriving DecidableEq, Repr

namespace Wildcard

open Text

/-! ## Reading patterns -/

/-- The ranges of a set. A hyphen makes a range of the characters on its two sides. -/
def ranges : List Char → List (Char × Char)
  | a :: '-' :: b :: rest => (a, b) :: ranges rest
  | a :: rest => (a, a) :: ranges rest
  | [] => []

/-- A set after its opening bracket, and how many characters it takes. The first character of a set is
    an element also if it is a bracket. -/
def readSet : List Char → Option (WildcardToken × Nat)
  | '!' :: rest =>
    match rest with
    | first :: rest => (splitFirst ']' rest).map fun (inside, _) =>
      (.oneOf true (ranges (first :: inside)), inside.length + 3)
    | [] => none
  | first :: rest => (splitFirst ']' rest).map fun (inside, _) =>
    (.oneOf false (ranges (first :: inside)), inside.length + 2)
  | [] => none

/-- What a star at a position stands for, between the character before it and the characters after it,
    and how many of these it takes. Two stars take the slash after them. -/
def readStar (position : Nat) (before : Option Char) :
    List Char → Except WildcardFault (WildcardToken × Nat)
  | '*' :: '*' :: _ => .error (.stars (position + 2))
  | '*' :: rest =>
    if before = none ∨ before = some '/' then
      match rest with
      | [] => .ok (.deep, 1)
      | '/' :: _ => .ok (.deep, 2)
      | _ => .error (.deepInside (position + 2))
    else .error (.deepInside (position - 1))
  | _ => .ok (.many, 0)

/-- The token that starts with the character `c`, and how many of the characters after it it takes. -/
def readToken (position : Nat) (before : Option Char) (c : Char) (rest : List Char) :
    Except WildcardFault (WildcardToken × Nat) :=
  if c = '?' then .ok (.any, 0)
  else if c = '*' then readStar position before rest
  else if c = '[' then
    match readSet rest with
    | some token => .ok token
    | none => .error (.openSet position)
  else .ok (.char c, 0)

/-- Read a pattern from a position on, where the next `taken` characters belong to the token before. -/
def readFrom : List Char → Nat → Nat → Option Char → Except WildcardFault (List WildcardToken)
  | [], _, _, _ => .ok []
  | c :: rest, taken + 1, position, _ => readFrom rest taken (position + 1) (some c)
  | c :: rest, 0, position, before =>
    match readToken position before c rest with
    | .error fault => .error fault
    | .ok (token, taken) => (readFrom rest taken (position + 1) (some c)).map (token :: ·)

/-- The tokens of a pattern. -/
def tokens (pattern : List Char) : Except WildcardFault (List WildcardToken) :=
  readFrom pattern 0 0 none

/-- Read a pattern. -/
def read (pattern : String) : Except WildcardFault Wildcard := do
  let _ ← tokens pattern.toList
  let components ← (splitAt '/' pattern.toList).mapM tokens
  return ⟨components⟩

/-- The pattern of a text that stands for itself. -/
def escape (text : List Char) : List Char :=
  text.flatMap fun c => if c ∈ ['?', '*', '[', ']'] then ['[', c, ']'] else [c]

/-! ## Matching -/

/-- Whether tokens match a name. There are no directories in a name, so `**` stands for nothing of it or
    for all of it. -/
def accepts : List WildcardToken → List Char → Bool
  | [], cs => cs.isEmpty
  | .char c :: ts, cs =>
    match cs with
    | d :: cs => d = c && accepts ts cs
    | [] => false
  | .any :: ts, cs =>
    match cs with
    | _ :: cs => accepts ts cs
    | [] => false
  | .many :: ts, cs => (Glob.suffixes cs).any (accepts ts)
  | .deep :: ts, cs => accepts ts cs || accepts ts []
  | .oneOf negated ranges :: ts, cs =>
    match cs with
    | d :: cs => (ranges.any (fun r => r.1 ≤ d && d ≤ r.2) != negated) && accepts ts cs
    | [] => false

/-- Whether a name in a directory matches the pattern. -/
def lists (w : Wildcard) (name : String) : Bool :=
  match w.components.getLast? with
  | some component => accepts component name.toList
  | none => false

end Wildcard

end Uplift
