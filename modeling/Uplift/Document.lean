import Uplift.Json.Basic
import Uplift.Text.Numeral
import Uplift.Text.Split

set_option autoImplicit false

/-! # Editing documents by path

A path into a document is a list of segments. In an object a segment is a key, in an array it is an
index; nothing else has anything below it. Writing creates the objects that are missing on the way
and replaces scalars by objects, but an array is only ever indexed, or extended by one element at
the end of the path. `setAt` looks for such a misfit first (`misfit?`), so that a path that cannot be
written changes nothing. -/

namespace Uplift.Document

open Text

/-- The array index that a segment stands for. -/
def index? (segment : String) : Option Nat := indexOf? segment.toList

/-- The segments of a dotted path; empty pieces do not count. -/
def segments (path : String) : List String :=
  ((Text.splitAt '.' path.toList).filter (· ≠ [])).map String.ofList

/-! ## Reading -/

/-- The value at a path. -/
def getAt : Json → List String → Option Json
  | v, [] => some v
  | .obj fields, s :: rest => (Fields.get? fields s).bind (getAt · rest)
  | .arr items, s :: rest => ((index? s).bind (items[·]?)).bind (getAt · rest)
  | _, _ :: _ => none

/-- Whether there is a value at a path. -/
def hasAt (d : Json) (path : List String) : Bool := (getAt d path).isSome

/-! ## Writing -/

/-- Why an array cannot take a segment. -/
inductive Misfit where
  | pastEnd (index length : Nat)
  | notIndex (segment : String)
  deriving DecidableEq, Repr

/-- The wording of a misfit. -/
def Misfit.message : Misfit → String
  | .pastEnd index length =>
    "index " ++ decimal index ++ " is past the end of an array of " ++ decimal length
  | .notIndex segment => "`" ++ segment ++ "` is not an array index"

/-- A path that cannot be written. -/
structure PathFault where
  path : List String
  misfit : Misfit
  deriving DecidableEq, Repr

/-- The path as it is shown. -/
def PathFault.pathText (f : PathFault) : String := joined "." f.path

/-- The wording of a path fault. -/
def PathFault.message (f : PathFault) : String :=
  "cannot set " ++ f.pathText ++ ": " ++ f.misfit.message

/-- The first segment of a path that the array in front of it cannot take. Only the last segment may
    point to the place after the last element. -/
def misfit? : Json → List String → Option Misfit
  | _, [] => none
  | .arr items, s :: rest =>
    match index? s with
    | none => some (.notIndex s)
    | some i =>
      match items[i]? with
      | some v => misfit? v rest
      | none => if rest = [] ∧ i = items.length then none else some (.pastEnd i items.length)
  | .obj fields, s :: rest =>
    match Fields.get? fields s with
    | some v => misfit? v rest
    | none => none
  | _, _ :: _ => none

/-- The document with a value written at a path; none where an array would be left. -/
def write? : Json → List String → Json → Option Json
  | _, [], v => some v
  | .arr items, s :: rest, v => do
    let i ← index? s
    match items[i]? with
    | some old => return .arr (items.set i (← write? old rest v))
    | none => if rest = [] ∧ i = items.length then some (.arr (items ++ [v])) else none
  | .obj fields, s :: rest, v => do
    let old := (Fields.get? fields s).getD (.obj [])
    return .obj (Fields.put fields s (← write? old rest v))
  | _, s :: rest, v => do
    return .obj [(s, ← write? (.obj []) rest v)]

/-- Set the value at a path. -/
def setAt (d : Json) (path : List String) (v : Json) : Except PathFault Json :=
  match misfit? d path with
  | some misfit => .error ⟨path, misfit⟩
  | none => .ok ((write? d path v).getD d)

/-! ## Removing -/

/-- The value at a path and the document without it. The root cannot be removed. -/
def removeAt : Json → List String → Option (Json × Json)
  | _, [] => none
  | .obj fields, s :: rest => do
    let old ← Fields.get? fields s
    match rest with
    | [] => return (old, .obj (Fields.erase fields s))
    | _ :: _ =>
      let (v, new) ← removeAt old rest
      return (v, .obj (Fields.put fields s new))
  | .arr items, s :: rest => do
    let i ← index? s
    let old ← items[i]?
    match rest with
    | [] => return (old, .arr (items.eraseIdx i))
    | _ :: _ =>
      let (v, new) ← removeAt old rest
      return (v, .arr (items.set i new))
  | _, _ :: _ => none

/-! ## Merging -/

mutual

/-- Merge the right document into the left one: objects key by key, arrays index by index, anything
    else is overwritten. -/
def merge : Json → Json → Json
  | .obj fs, .obj gs => .obj (mergeFields fs gs)
  | .arr xs, .arr ys => .arr (mergeItems xs ys)
  | _, w => w

/-- Known keys keep their places, new keys follow in order. -/
def mergeFields : List (String × Json) → List (String × Json) → List (String × Json)
  | fs, [] => fs
  | fs, (k, w) :: gs =>
    match Fields.get? fs k with
    | some v => mergeFields (Fields.put fs k (merge v w)) gs
    | none => mergeFields (Fields.put fs k w) gs

/-- Index by index; what is longer on the right is appended. -/
def mergeItems : List Json → List Json → List Json
  | xs, [] => xs
  | [], ys => ys
  | x :: xs, y :: ys => merge x y :: mergeItems xs ys

end

/-! ## Documents under edit

An edit gives its answer together with the document as it stands afterwards. -/

/-- The value at a dotted path. -/
def get (d : Json) (path : String) : Option Json := getAt d (segments path)

/-- Set the value at a path. A document that the path does not fit stays as it is. -/
def assignAt (d : Json) (path : List String) (v : Json) : Except PathFault Unit × Json :=
  match setAt d path v with
  | .ok new => (.ok (), new)
  | .error fault => (.error fault, d)

/-- Remove the value at a dotted path and return it. A document without one stays as it is. -/
def remove (d : Json) (path : String) : Option Json × Json :=
  match removeAt d (segments path) with
  | some (v, new) => (some v, new)
  | none => (none, d)

end Uplift.Document
