import Uplift.Report
import Uplift.Requirement
import Uplift.Transform

set_option autoImplicit false

/-! # The world of a run

A run works on a world: the files, the transforms loaded so far, and a log of everything that went
out of the program. Outside parties are functions of the log and of what they are given, so a party
that answers differently each time is one that looks at the log. Every step is an action on the
world, which may fail; a failed action keeps what it did before. -/

namespace Uplift

/-- A call of the source-transform engine. -/
structure EngineCall where
  /-- The codemod to apply. -/
  transform : Path
  /-- The files to apply it to. -/
  paths : List Path
  dry : Bool
  extensions : List String
  parser : Option String
  cwd : Option Path
  deriving DecidableEq, Repr

/-- What a call of the engine came to. -/
inductive EngineReply where
  /-- The counts and the time. -/
  | report (r : Report)
  /-- The engine failed. -/
  | fault (f : Fault)
  /-- The engine gave a time that is out of the range of durations. -/
  | overflow
  deriving DecidableEq, Repr

/-- A file and the text that was written to it. -/
structure FileWrite where
  path : Path
  text : String
  deriving DecidableEq, Repr

/-- What went out of the program. -/
inductive Event where
  /-- The registry was asked for the versions of a package. -/
  | registry (package : String)
  /-- A requirement was checked, or the user was asked. -/
  | inquiry (i : Inquiry)
  /-- The collections of these versions were put up for selection. -/
  | select (versions : List Version)
  /-- The engine was called. -/
  | engine (call : EngineCall)
  /-- A file was written. -/
  | write (file : FileWrite)
  /-- The dependencies were installed. -/
  | install (cwd : Path)
  deriving DecidableEq, Repr

/-- The files, the loaded transforms and the log, oldest first. -/
structure World where
  tree : Tree
  cache : Fields Transform := []
  log : List Event := []

/-- A step on the world that may fail. -/
abbrev Action (ε α : Type) := ExceptT ε (StateM World) α

namespace Action

variable {ε α : Type}

/-- Run an action: its outcome and the world after it. -/
def on (a : Action ε α) (w : World) : Except ε α × World := a.run w

/-- Add an event to the log. -/
def record (e : Event) : Action ε Unit :=
  modify fun w => { w with log := w.log ++ [e] }

/-- Write a file, if it can be written. -/
def write (p : Path) (text : String) : Action ε Bool := fun w =>
  match w.tree.write p (.text text) with
  | none => (.ok false, w)
  | some tree => (.ok true, { w with tree, log := w.log ++ [.write ⟨p, text⟩] })

/-- Turn the error of an action into another one. -/
def mapError {δ : Type} (f : ε → δ) (a : Action ε α) : Action δ α := fun w =>
  match a.on w with
  | (.ok x, w) => (.ok x, w)
  | (.error e, w) => (.error (f e), w)

end Action

/-- An engine, which sees the log before the call and may change the files. -/
abbrev Engine := List Event → EngineCall → Tree → EngineReply × Tree

/-- What a run uses to apply codemods: the engine, the registered transforms, and the kinds of
    codemods that can be run. -/
structure Services where
  engine : Engine
  transforms : Fields Transform := []
  kinds : List Kind := [.code, .document]

/-- The engine when there is none. -/
def Engine.none : Engine := fun _ call t =>
  (.fault ⟨"no source-transform engine configured to run " ++ call.transform.text, []⟩, t)

end Uplift
