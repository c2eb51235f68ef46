import Uplift.Pointer

set_option autoImplicit false

/-! # Patches

A patch is a list of operations on a document, applied one after the other. It is all or nothing:
when an operation fails, those before it are undone in reverse order. Every operation therefore
yields, beside the new document, the operations that take it back.

Removing a member of an object moves the last member into the freed place. The place `-` after the
last element of an array is for adding, and for taking back what was added there. -/

namespace Uplift

/-- One step of a patch. -/
inductive Operation where
  | add (path : Pointer) (value : Json)
  | remove (path : Pointer)
  | replace (path : Pointer) (value : Json)
  | move (source path : Pointer)
  | copy (source path : Pointer)
  | test (path : Pointer) (value : Json)
  deriving Repr

/-- The steps of a patch, in order. -/
abbrev Patch := List Operation

namespace Patch

/-- Why an operation failed. -/
inductive Reason where
  | mismatch
  | badSource
  | badPath
  | insideItself
  deriving DecidableEq, Repr

/-- The wording of a reason. -/
def Reason.message : Reason → String
  | .mismatch => "value did not match"
  | .badSource => "\"from\" path is invalid"
  | .badPath => "path is invalid"
  | .insideItself => "cannot move the value inside itself"

/-- The operation that failed, by its number and path. -/
structure Failure where
  index : Nat
  path : Pointer
  reason : Reason
  deriving DecidableEq, Repr

/-- The wording of a failure. -/
def Failure.message (f : Failure) : String :=
  "operation '/" ++ Text.decimal f.index ++ "' failed at path '" ++ f.path.text ++ "': "
    ++ f.reason.message

/-! ## Changing a document -/

/-- Put a value into a container. The value that was there before is handed out. -/
def insertInto (token : String) (v : Json) : Json → Option (Option Json × Json)
  | .obj fields => some (Fields.get? fields token, .obj (Fields.put fields token v))
  | .arr items =>
    if token = "-" then some (none, .arr (items ++ [v]))
    else do
      let i ← Pointer.index? token
      if i ≤ items.length then return (none, .arr (items.insertIdx i v)) else none
  | _ => none

/-- Take a value out of a container. With `last` the token `-` stands for the last element. -/
def takeFrom (last : Bool) (token : String) : Json → Option (Json × Json)
  | .obj fields => do
    return (← Fields.get? fields token, .obj (Fields.swapErase fields token))
  | .arr items =>
    if last && token = "-" then do return (← items.getLast?, .arr items.dropLast)
    else do
      let i ← Pointer.index? token
      return (← items[i]?, .arr (items.eraseIdx i))
  | _ => none

/-- Add a value at a place; the value that it replaces is handed out. -/
def add? (d : Json) (p : Pointer) (v : Json) : Option (Option Json × Json) :=
  match p.tokens.getLast? with
  | none => some (some d, v)
  | some token => Pointer.update (insertInto token v) d p.tokens.dropLast

/-- Remove the value at a place. -/
def remove? (last : Bool) (d : Json) (p : Pointer) : Option (Json × Json) :=
  match p.tokens.getLast? with
  | none => none
  | some token => Pointer.update (takeFrom last token) d p.tokens.dropLast

/-- Replace the value at a place. -/
def replace? (d : Json) (p : Pointer) (v : Json) : Option (Json × Json) :=
  Pointer.update (fun old => some (old, v)) d p.tokens

end Patch

namespace Operation

open Patch

/-- The place that an operation names as its own. -/
def path : Operation → Pointer
  | .add p _ | .remove p | .replace p _ | .move _ p | .copy _ p | .test p _ => p

/-- What an operation leaves behind: the document, and either the reason of its failure or the
    operations that take it back, the last of them first to be done. -/
abbrev Outcome := Json × Except Reason (List Operation)

/-- How to take back an addition. -/
def unadd (p : Pointer) : Option Json → Operation
  | none => .remove p
  | some old => .add p old

/-- Run one operation. A `move` that cannot put down what it has taken leaves the document without
    it. -/
def run (last : Bool) (d : Json) : Operation → Outcome
  | .add p v =>
    match add? d p v with
    | some (old, d') => (d', .ok [unadd p old])
    | none => (d, .error .badPath)
  | .remove p =>
    match remove? last d p with
    | some (old, d') => (d', .ok [.add p old])
    | none => (d, .error .badPath)
  | .replace p v =>
    match replace? d p v with
    | some (old, d') => (d', .ok [.replace p old])
    | none => (d, .error .badPath)
  | .move q p =>
    if p.isBelow q then (d, .error .insideItself)
    else match remove? last d q with
      | none => (d, .error .badSource)
      | some (v, d') =>
        match add? d' p v with
        | none => (d', .error .badPath)
        | some (none, d'') => (d'', .ok [.move p q])
        | some (some old, d'') => (d'', .ok [.add p old, .move p q])
  | .copy q p =>
    match Pointer.lookup d q.tokens with
    | none => (d, .error .badSource)
    | some v =>
      match add? d p v with
      | some (old, d') => (d', .ok [unadd p old])
      | none => (d, .error .badPath)
  | .test p v =>
    match Pointer.lookup d p.tokens with
    | none => (d, .error .badPath)
    | some w => if w.same v then (d, .ok []) else (d, .error .mismatch)

end Operation

namespace Patch

/-- How a patch ended. -/
inductive Ending where
  /-- Every operation was applied. -/
  | applied (d : Json)
  /-- An operation failed; `undone` is the document after those before it were taken back, if that
      was possible. -/
  | failed (failure : Failure) (undone : Option Json)
  deriving Repr

/-- Take operations back, the last one first. -/
def undo (d : Json) : List Operation → Option Json
  | [] => some d
  | op :: ops =>
    match op.run true d with
    | (d', .ok _) => undo d' ops
    | (_, .error _) => none

/-- Apply the operations from number `i` on; `back` takes back those before. -/
def runFrom (i : Nat) (back : List Operation) (d : Json) : Patch → Ending
  | [] => .applied d
  | op :: ops =>
    match op.run false d with
    | (d', .ok undoing) => runFrom (i + 1) (undoing.reverse ++ back) d' ops
    | (d', .error reason) => .failed ⟨i, op.path, reason⟩ (undo d' back)

/-- Apply a patch to a document. -/
def run (p : Patch) (d : Json) : Ending := runFrom 0 [] d p

/-- The patched document. -/
def apply (p : Patch) (d : Json) : Except Failure Json :=
  match p.run d with
  | .applied d' => .ok d'
  | .failed failure _ => .error failure

end Patch

end Uplift
