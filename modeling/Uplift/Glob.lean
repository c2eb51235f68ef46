set_option autoImplicit false

/-! # Path patterns

The patterns that leave paths out of a project scan. A pattern matches a whole path. `*` stands for
any run of characters, `?` for one and `[a-z]` for one of a set, a `/` included; `**/` in front
stands for any directories or none, `/**/` for any directories between two names, and `/**` at the
end for anything below. `{a,b}` stands for either, and a backslash takes the next character as it is.

Paths are matched byte by byte, so `?` and sets stand for one byte of the text in UTF-8. -/

namespace Uplift

/-- The bytes of a text. -/
def utf8 (cs : List Char) : List UInt8 := cs.flatMap String.utf8EncodeChar

/-- One step of a pattern. -/
inductive GlobToken where
  /-- The character itself. -/
  | literal (c : Char)
  /-- One byte, `?`. -/
  | any
  /-- Any bytes, `*`. -/
  | many
  /-- Any directories in front, `**/`. -/
  | leading
  /-- Any directories between two names, `/**/`. -/
  | between
  /-- Anything below, `/**` at the end. -/
  | trailing
  /-- One byte inside or outside of the ranges, `[...]`. -/
  | oneOf (negated : Bool) (ranges : List (UInt8 × UInt8))
  /-- One of the branches, `{...}`. -/
  | group (branches : List (List GlobToken))
  deriving Repr

/-- A pattern. -/
structure Glob where
  tokens : List GlobToken
  deriving Repr

namespace Glob

open GlobToken

/-! ## Reading patterns -/

/-- The ranges of a set up to its closing bracket; `first` is the place where a bracket is an element,
    `pending` the start of a range whose end is still to come. -/
def readSet : List Char → Bool → Bool → List (Char × Char) → Option (List (Char × Char) × List Char)
  | [], _, _, _ => none
  | c :: cs, first, pending, ranges =>
    let extend (c : Char) : Option (List (Char × Char)) :=
      match ranges with
      | (a, _) :: rest => if c < a then none else some ((a, c) :: rest)
      | [] => none
    if c = ']' ∧ ¬first then
      some ((if pending then ('-', '-') :: ranges else ranges).reverse, cs)
    else if c = '-' ∧ ¬first ∧ ¬pending then readSet cs false true ranges
    else if pending then (extend c).bind (readSet cs false false)
    else readSet cs false false ((c, c) :: ranges)

/-- The byte ranges of a range of characters: a byte stands for itself, and between two characters
    the last byte of the first and the first byte of the second are the ends of a range. -/
def byteRanges (r : Char × Char) : Option (List (UInt8 × UInt8)) :=
  let single (bs : List UInt8) : List (UInt8 × UInt8) := bs.map fun b => (b, b)
  let lo := String.utf8EncodeChar r.1
  let hi := String.utf8EncodeChar r.2
  if r.1 = r.2 then some (single lo)
  else match lo.getLast?, hi with
    | some a, b :: rest =>
      if b < a then none else some (single lo.dropLast ++ (a, b) :: single rest)
    | _, _ => none

/-- A set after its opening bracket. -/
def readClass (cs : List Char) : Option (GlobToken × List Char) := do
  let (negated, cs) := match cs with
    | '!' :: rest => (true, rest)
    | '^' :: rest => (true, rest)
    | cs => (false, cs)
  let (ranges, cs) ← readSet cs true false []
  let bytes ← ranges.mapM byteRanges
  return (.oneOf negated bytes.flatten, cs)

/-- The state of reading: the tokens of this branch backwards, and for each open brace the tokens in
    front of it and its finished branches, all backwards. -/
structure Reading where
  branch : List GlobToken := []
  opened : List (List GlobToken × List (List GlobToken)) := []

/-- Add a token. -/
def Reading.push (r : Reading) (t : GlobToken) : Reading := { r with branch := t :: r.branch }

/-- Two stars between `prev` and `cs`, and what is left of `cs`. They stand for directories where a
    path is cut on both sides, and are two single stars elsewhere. -/
def readStars (r : Reading) (prev : Option Char) (cs : List Char) : Reading × List Char :=
  let plain := (r.push .many).push .many
  if r.branch.isEmpty then
    match cs with
    | [] => (r.push .leading, [])
    | '/' :: rest => (r.push .leading, rest)
    | _ => (plain, cs)
  else if prev ≠ some '/' ∧ (r.opened.isEmpty ∨ (prev ≠ some ',' ∧ prev ≠ some '{')) then (plain, cs)
  else
    let swap (t : GlobToken) : Reading :=
      match r.branch with
      | .leading :: _ => r
      | .trailing :: _ => r
      | _ :: rest => { r with branch := t :: rest }
      | [] => r
    match cs with
    | [] => (swap .trailing, [])
    | '/' :: rest => (swap .between, rest)
    | c :: _ =>
      if (c = ',' ∨ c = '}') ∧ ¬r.opened.isEmpty then (swap .trailing, cs) else (plain, cs)

/-- Read the rest of a pattern after the character `prev`. -/
def readFrom : Nat → Option Char → List Char → Reading → Option (List GlobToken)
  | 0, _, _, _ => none
  | _ + 1, _, [], r => if r.opened.isEmpty then some r.branch.reverse else none
  | fuel + 1, prev, c :: cs, r =>
    match c with
    | '?' => readFrom fuel (some c) cs (r.push .any)
    | '*' =>
      match cs with
      | '*' :: rest =>
        let (r', rest') := readStars r prev rest
        let last := if rest'.length < rest.length then '/' else '*'
        readFrom fuel (some last) rest' r'
      | _ => readFrom fuel (some c) cs (r.push .many)
    | '[' => (readClass cs).bind fun (t, cs) => readFrom fuel (some ']') cs (r.push t)
    | '{' => readFrom fuel (some c) cs { branch := [], opened := (r.branch, []) :: r.opened }
    | '}' =>
      match r.opened with
      | [] => none
      | (outer, done) :: rest =>
        let token := GlobToken.group (r.branch.reverse :: done).reverse
        readFrom fuel (some c) cs { branch := token :: outer, opened := rest }
    | ',' =>
      match r.opened with
      | [] => readFrom fuel (some c) cs (r.push (.literal c))
      | (outer, done) :: rest =>
        readFrom fuel (some c) cs
          { branch := [], opened := (outer, r.branch.reverse :: done) :: rest }
    | '\\' =>
      match cs with
      | [] => none
      | x :: cs => readFrom fuel (some x) cs (r.push (.literal x))
    | c => readFrom fuel (some c) cs (r.push (.literal c))

/-- Read a pattern. An open bracket or brace, a closing brace without an opening one, a range that
    runs backwards and a backslash at the end are refused. -/
def read? (pattern : String) : Option Glob :=
  let cs := pattern.toList
  (readFrom (cs.length + 1) none cs {}).map Glob.mk

/-! ## Matching -/

/-- All ends of a list, the whole list first. -/
def suffixes {α : Type} : List α → List (List α)
  | [] => [[]]
  | x :: xs => (x :: xs) :: suffixes xs

/-- The byte of a slash. -/
def slash : UInt8 := 47

/-- What comes after each slash. -/
def afterSlashes : List UInt8 → List (List UInt8)
  | [] => []
  | b :: bs => if b = slash then bs :: afterSlashes bs else afterSlashes bs

/-- Whether a byte lies in one of the ranges. -/
def inSet (ranges : List (UInt8 × UInt8)) (b : UInt8) : Bool := ranges.any fun r => r.1 ≤ b && b ≤ r.2

mutual

/-- Whether a list of tokens stands for nothing at all. -/
def isVoid : List GlobToken → Bool
  | [] => true
  | t :: ts => isVoidToken t && isVoid ts

/-- Groups of nothing are nothing. -/
def isVoidToken : GlobToken → Bool
  | .group branches => areVoid branches
  | _ => false

/-- Branch by branch. -/
def areVoid : List (List GlobToken) → Bool
  | [] => true
  | b :: bs => isVoid b && areVoid bs

end

mutual

/-- Whether the tokens match the front of a text so that the rest passes the test. -/
def accepts : List GlobToken → (List UInt8 → Bool) → List UInt8 → Bool
  | [], rest, s => rest s
  | t :: ts, rest, s => acceptsToken t (accepts ts rest) s

/-- One token. -/
def acceptsToken : GlobToken → (List UInt8 → Bool) → List UInt8 → Bool
  | .literal c, rest, s =>
    match (String.utf8EncodeChar c).isPrefixOf? s with
    | some s => rest s
    | none => false
  | .any, rest, s =>
    match s with
    | [] => false
    | _ :: s => rest s
  | .many, rest, s => (suffixes s).any rest
  | .leading, rest, s => rest s || (afterSlashes s).any rest
  | .between, rest, s =>
    match s with
    | [] => false
    | b :: s => b = slash && (rest s || (afterSlashes s).any rest)
  | .trailing, rest, s =>
    match s with
    | [] => false
    | b :: s => b = slash && (suffixes s).any rest
  | .oneOf negated ranges, rest, s =>
    match s with
    | [] => false
    | b :: s => (inSet ranges b != negated) && rest s
  | .group branches, rest, s => if areVoid branches then rest s else acceptsBranch branches rest s

/-- One of the branches that stand for something. -/
def acceptsBranch : List (List GlobToken) → (List UInt8 → Bool) → List UInt8 → Bool
  | [], _, _ => false
  | b :: bs, rest, s => (!isVoid b && accepts b rest s) || acceptsBranch bs rest s

end

/-! ## File names

Some patterns are looked up by the file name of a path or by its extension. A path that ends in a dot
has neither, so these patterns leave it alone. -/

/-- Whether a token is a character that stands for itself. -/
def isLiteral : GlobToken → Bool
  | .literal _ => true
  | _ => false

/-- Patterns of the form `**/name`. -/
def namesFile : List GlobToken → Bool
  | .leading :: t :: ts => (t :: ts).all fun
    | .literal c => c ≠ '/'
    | _ => false
  | _ => false

/-- Patterns of the form `*.ext` or `**/*.ext`. -/
def namesExtension (ts : List GlobToken) : Bool :=
  let ts := match ts with
    | .leading :: rest => rest
    | ts => ts
  match ts with
  | .many :: .literal '.' :: rest => rest.all fun
    | .literal c => c ≠ '.' ∧ c ≠ '/'
    | _ => false
  | _ => false

/-- Patterns of the form `*end`, `**/*end` or `**/a/end`. -/
def namesEnd (ts : List GlobToken) : Bool :=
  let ts := match ts with
    | .leading :: rest => rest
    | ts => ts
  match ts with
  | .many :: rest => !rest.isEmpty && rest.all isLiteral
  | ts => !ts.isEmpty && ts.all isLiteral

/-- Whether a pattern ends in a dot and a plain extension. -/
def endsInExtension (ts : List GlobToken) : Bool :=
  let back := ts.reverse.dropWhile fun
    | .literal c => c ≠ '.' ∧ c ≠ '/'
    | _ => false
  match back with
  | .literal '.' :: _ => true
  | _ => false

/-- Whether a pattern is looked up by the file name of a path or its extension. -/
def needsFileName (ts : List GlobToken) : Bool :=
  namesFile ts ||
    (!ts.all isLiteral && (namesExtension ts || (!namesEnd ts && endsInExtension ts)))

/-- Whether a pattern matches a path. -/
def isMatch (g : Glob) (path : List UInt8) : Bool :=
  match g.tokens with
  | [.leading] => true
  | ts =>
    accepts ts List.isEmpty path && !(path.getLast? = some 46 && needsFileName ts)

end Glob

end Uplift
