import Uplift.Json.Basic
import Uplift.Text.Numeral
import Uplift.Text.Split

set_option autoImplicit false

/-! # Pointers into documents

A pointer is empty (the whole document) or a sequence of tokens, each after a `/`. Inside a token
`~1` stands for `/` and `~0` for `~`, and `~` stands nowhere else. An array index is a numeral without
sign and without leading zeros. -/

namespace Uplift

open Text

/-- A place in a document: the text as it was written and the tokens that it stands for. -/
structure Pointer where
  text : String
  tokens : List String
  deriving DecidableEq, Repr

namespace Pointer

/-- The characters that a token stands for. -/
def unescape : List Char → Option (List Char)
  | [] => some []
  | '~' :: '0' :: rest => (unescape rest).map ('~' :: ·)
  | '~' :: '1' :: rest => (unescape rest).map ('/' :: ·)
  | c :: rest => if c = '~' then none else (unescape rest).map (c :: ·)

/-- Read a pointer. -/
def read? (s : String) : Option Pointer :=
  match s.toList with
  | [] => some ⟨s, []⟩
  | '/' :: rest => do
    let tokens ← (Text.splitAt '/' rest).mapM unescape
    return ⟨s, tokens.map String.ofList⟩
  | _ => none

/-- The array index that a token stands for. -/
def index? (token : String) : Option Nat :=
  let cs := token.toList
  if isCanonical cs then (word64Of? cs).map UInt64.toNat else none

/-- The value at a place. -/
def lookup : Json → List String → Option Json
  | v, [] => some v
  | .obj fields, t :: rest => (Fields.get? fields t).bind (lookup · rest)
  | .arr items, t :: rest => ((index? t).bind (items[·]?)).bind (lookup · rest)
  | _, _ :: _ => none

/-- Change the value at a place, and hand out what the change yields. -/
def update {α : Type} (f : Json → Option (α × Json)) : Json → List String → Option (α × Json)
  | v, [] => f v
  | .obj fields, t :: rest => do
    let (a, new) ← update f (← Fields.get? fields t) rest
    return (a, .obj (Fields.put fields t new))
  | .arr items, t :: rest => do
    let i ← index? t
    let (a, new) ← update f (← items[i]?) rest
    return (a, .arr (items.set i new))
  | _, _ :: _ => none

/-- Whether a place lies strictly below another one. -/
def isBelow (p q : Pointer) : Bool := q.tokens.isPrefixOf p.tokens && p.tokens != q.tokens

end Pointer

end Uplift
