import Uplift.Json.Parser
import Uplift.Patch

set_option autoImplicit false

/-! # Patches as data

In a patch file an operation is an object with the members `op`, `path`, and what the operation
needs: `value` or `from`. A member that the operation needs comes exactly once; other members do not
count. A list of the operation's name and its members in a fixed order stands for the operation as
well. -/

namespace Uplift.Patch

/-- The key of a member: a name, or the number of the member in the fixed order. -/
inductive Key where
  | name (s : String)
  | place (n : Nat)
  deriving DecidableEq, Repr

/-- An operation as it is written. A value that is no JSON value is missing. -/
inductive Entry where
  | members (ms : List (Key × Option Json))
  | items (vs : List (Option Json))
  deriving Repr

namespace Entry

/-- The only one of a list. -/
def only? {α : Type} : List α → Option α
  | [a] => some a
  | _ => none

/-- The members of an operation in their fixed order. -/
def fieldNames : String → Option (List String)
  | "add" | "replace" | "test" => some ["path", "value"]
  | "remove" => some ["path"]
  | "move" | "copy" => some ["from", "path"]
  | _ => none

/-- A pointer written as a string. -/
def pointer? (v : Json) : Option Pointer := v.str?.bind Pointer.read?

/-- The operation of a name and its members in their fixed order. -/
def operation? (name : String) (vs : List Json) : Option Operation :=
  match name, vs with
  | "add", [p, v] => (pointer? p).map (.add · v)
  | "replace", [p, v] => (pointer? p).map (.replace · v)
  | "test", [p, v] => (pointer? p).map (.test · v)
  | "remove", [p] => (pointer? p).map .remove
  | "move", [q, p] => do return .move (← pointer? q) (← pointer? p)
  | "copy", [q, p] => do return .copy (← pointer? q) (← pointer? p)
  | _, _ => none

/-- The value of the member that is `n`-th in the fixed order. -/
def fieldValue? (ms : List (Key × Option Json)) (field : String × Nat) : Option Json := do
  let (_, v) ← only? (ms.filter fun m => m.1 = .name field.1 ∨ m.1 = .place field.2)
  v

/-- The operation that an entry stands for. -/
def toOperation? : Entry → Option Operation
  | .members ms => do
    let (_, tag) ← only? (ms.filter (·.1 = .name "op"))
    let name ← (← tag).str?
    let fields ← fieldNames name
    let vs ← fields.zipIdx.mapM (fieldValue? ms)
    operation? name vs
  | .items vs =>
    match vs with
    | some (.str name) :: rest => do operation? name (← rest.mapM id)
    | _ => none

end Entry

/-- The patch of a list of entries. -/
def ofEntries? (entries : List Entry) : Option Patch := entries.mapM Entry.toOperation?

/-! ## JSON -/

/-- An entry in a JSON text; its values may nest as deep as a document allows at this place. -/
def jsonEntry : Json.Reader Entry := fun cs =>
  let item := Json.value (Json.maxDepth - 2)
  match Json.skipGap cs with
  | '{' :: rest =>
    (Json.object item rest).map fun (ms, rest) =>
      (.members (ms.map fun (k, v) => (.name k, some v)), rest)
  | '[' :: rest => (Json.array item rest).map fun (vs, rest) => (.items (vs.map some), rest)
  | _ => none

/-- Read a patch in JSON. -/
def ofJsonText? (s : String) : Option Patch :=
  match Json.skipGap s.toList with
  | '[' :: rest => do
    let (entries, rest) ← Json.array jsonEntry rest
    if (Json.skipGap rest).isEmpty then ofEntries? entries else none
  | _ => none

end Uplift.Patch
