import Uplift.Error

set_option autoImplicit false

/-! # Version ranges

A range has at most one lower and at most one upper bound, and contains the versions between them
by precedence. As a text it is a list of blank-separated tokens, each an operator and a version;
`*` and `x` say nothing. An exact token fixes both bounds and stands alone. -/

namespace Uplift

open Text

/-- An end of a range. -/
structure Bound where
  version : Version
  inclusive : Bool
  deriving DecidableEq, Repr

/-- The versions between two optional ends. -/
structure Range where
  lower : Option Bound
  upper : Option Bound
  deriving DecidableEq, Repr, Inhabited

namespace Range

/-- All versions. -/
def any : Range := ⟨none, none⟩

/-- The versions above `from` up to and including `to`. -/
def between (lo hi : Version) : Range := ⟨some ⟨lo, false⟩, some ⟨hi, true⟩⟩

/-- The versions above `v`. -/
def after (v : Version) : Range := ⟨some ⟨v, false⟩, none⟩

/-- The versions up to and including `v`. -/
def upTo (v : Version) : Range := ⟨none, some ⟨v, true⟩⟩

/-- The versions of the same precedence as `v`. -/
def exact (v : Version) : Range := ⟨some ⟨v, true⟩, some ⟨v, true⟩⟩

/-- Whether `v` is not below a lower end. -/
def meetsLower (b : Bound) (v : Version) : Bool :=
  match v.precedence b.version with
  | .gt => true
  | .eq => b.inclusive
  | .lt => false

/-- Whether `v` is not above an upper end. -/
def meetsUpper (b : Bound) (v : Version) : Bool :=
  match v.precedence b.version with
  | .lt => true
  | .eq => b.inclusive
  | .gt => false

/-- Membership by precedence. -/
def contains (r : Range) (v : Version) : Bool :=
  r.lower.all (meetsLower · v) && r.upper.all (meetsUpper · v)

/-! ## Printing -/

/-- A lower end with its operator. -/
def lowerText (b : Bound) : String := (if b.inclusive then ">=" else ">") ++ b.version.text

/-- An upper end with its operator. -/
def upperText (b : Bound) : String := (if b.inclusive then "<=" else "<") ++ b.version.text

/-- The text of a range. Two equal inclusive ends are written as one exact version. -/
def text (r : Range) : String :=
  match r.lower, r.upper with
  | none, none => "*"
  | some lo, none => lowerText lo
  | none, some hi => upperText hi
  | some lo, some hi =>
    if lo.inclusive && hi.inclusive && lo.version = hi.version then "=" ++ lo.version.text
    else lowerText lo ++ " " ++ upperText hi

instance : ToString Range := ⟨text⟩

/-! ## Reading -/

/-- What a token says about the version after it. -/
inductive Operator where
  | atLeast
  | atMost
  | above
  | below
  | exactly
  deriving DecidableEq, Repr

/-- The operator of a token and the text after it. No operator means an exact version. -/
def operatorOf : List Char → Operator × List Char
  | '>' :: '=' :: rest => (.atLeast, rest)
  | '<' :: '=' :: rest => (.atMost, rest)
  | '>' :: rest => (.above, rest)
  | '<' :: rest => (.below, rest)
  | '=' :: rest => (.exactly, rest)
  | rest => (.exactly, rest)

/-- Put a bound into an empty slot. -/
def fill (slot : Option Bound) (b : Bound) : Except RangeFault (Option Bound) :=
  match slot with
  | none => .ok (some b)
  | some _ => .error .duplicateBound

/-- Narrow a range by what an operator says about a version. -/
def narrow (r : Range) (op : Operator) (v : Version) : Except RangeFault Range :=
  match op with
  | .exactly => if r.lower.isSome || r.upper.isSome then .error .exactCombined else .ok (exact v)
  | .atLeast => (fill r.lower ⟨v, true⟩).map fun lower => { r with lower }
  | .above => (fill r.lower ⟨v, false⟩).map fun lower => { r with lower }
  | .atMost => (fill r.upper ⟨v, true⟩).map fun upper => { r with upper }
  | .below => (fill r.upper ⟨v, false⟩).map fun upper => { r with upper }

/-- Narrow a range by one token. -/
def addToken (r : Range) (token : List Char) : Except RangeFault Range :=
  if token = ['*'] ∨ token = ['x'] then .ok r
  else
    let (op, rest) := operatorOf token
    match Version.readLenient? (String.ofList rest) with
    | none => .error (.badVersion (String.ofList rest))
    | some v => narrow r op v

/-- The range that a list of tokens narrows down to. -/
def ofTokens (tokens : List (List Char)) : Except RangeFault Range :=
  tokens.foldlM addToken any

/-- Read a range. -/
def parse (input : String) : Except Error Range :=
  match ofTokens (words input.toList) with
  | .ok r => .ok r
  | .error fault => .error (.invalidRange input fault)

end Range

end Uplift
