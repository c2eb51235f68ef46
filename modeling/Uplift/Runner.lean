import Uplift.Project
import Uplift.World

set_option autoImplicit false

/-! # Running codemods

Code codemods go to the engine with all source files of the project at once; without files the engine
is not called. Document codemods are applied here, file by file: a file whose document changes is
written, and a file that cannot be read, transformed or written is counted and left alone. -/

namespace Uplift

/-- How codemods are run. -/
structure RunConfig where
  dry : Bool := false
  cwd : Option Path := none
  /-- A hint for the engine. -/
  parser : Option String := none
  deriving DecidableEq, Repr

/-- The extensions of the files that codemods of a kind are run on. -/
def Kind.extensions : Kind → List String
  | .code => ["js", "mjs", "cjs", "jsx", "ts", "mts", "cts", "tsx"]
  | .document => ["json"]

namespace Runner

/-! ## Code -/

/-- Hand the files to the engine. -/
def runCode (s : Services) (config : RunConfig) (c : Codemod) (paths : List Path) :
    Action TransformError Report := do
  if paths.isEmpty then return {}
  let call : EngineCall := {
    transform := c.path, paths, dry := config.dry, extensions := Kind.code.extensions,
    parser := config.parser, cwd := config.cwd }
  let w ← get
  let (outcome, tree) := s.engine w.log call w.tree
  set { w with tree }
  Action.record (.engine call)
  match outcome with
  | .report report => return report
  | .fault fault => throw (.engine c.uid fault)
  | .overflow => throw (.overflow c.uid)

/-! ## Documents -/

/-- The transform of a codemod, which is loaded once in a run. Failures are not remembered. -/
def transformOf (s : Services) (c : Codemod) : Action TransformError Transform := do
  let w ← get
  match w.cache.get? c.uid with
  | some transform => return transform
  | none =>
    match Transform.load s.transforms w.tree c with
    | .error e => throw e
    | .ok transform =>
      set { w with cache := w.cache.put c.uid transform }
      return transform

/-- How one file fared. -/
inductive FileOutcome where
  | changed
  | unchanged
  | failed
  deriving DecidableEq, Repr

/-- What a transform makes of a file: the text to be written, nothing if the document stays the same,
    or a failure. -/
def newText (t : Tree) (transform : Transform) (path : Path) : Option (Option String) := do
  let doc ← Json.read? (← t.readText path)
  match transform path doc with
  | .ok (some new) => return if new.same doc then none else some new.fileText
  | _ => none

/-- Apply a transform to a file. -/
def runFile (dry : Bool) (transform : Transform) (path : Path) : Action TransformError FileOutcome :=
  do
  match newText (← get).tree transform path with
  | none => return .failed
  | some none => return .unchanged
  | some (some text) =>
    if dry then return .changed
    else return if ← Action.write path text then .changed else .failed

/-- Count an outcome. -/
def tally (r : Report) : FileOutcome → Report
  | .changed => { r with ok := r.ok + 1 }
  | .unchanged => { r with nochange := r.nochange + 1 }
  | .failed => { r with error := r.error + 1 }

/-- Apply a transform to files, one after the other. -/
def runFiles (dry : Bool) (transform : Transform) : Report → List Path → Action TransformError Report
  | r, [] => return r
  | r, path :: rest => do
    let outcome ← runFile dry transform path
    runFiles dry transform (tally r outcome) rest

/-- Apply a document codemod. If its transform cannot be loaded, every file has failed. -/
def runDocument (s : Services) (config : RunConfig) (c : Codemod) (paths : List Path) :
    Action TransformError Report := fun w =>
  match (transformOf s c).on w with
  | (.ok transform, w) => runFiles config.dry transform {} paths w
  | (.error _, w) => (.ok { error := paths.length }, w)

/-! ## Dispatch -/

/-- Run a codemod with the runner of a kind, which takes codemods of that kind only. -/
def runAs (kind : Kind) (s : Services) (config : RunConfig) (c : Codemod) (paths : List Path) :
    Action TransformError Report :=
  if c.kind ≠ kind then throw (.invalidCodemod c.uid c.kind kind)
  else match kind with
    | .code => runCode s config c paths
    | .document => runDocument s config c paths

/-- The runner kind for a codemod, if there is one. -/
def runnerFor (s : Services) (c : Codemod) : Except TransformError Kind :=
  if s.kinds.contains c.kind then .ok c.kind else .error (.noRunner c.uid c.kind)

/-- Run a codemod with the runner for its kind. -/
def run (s : Services) (config : RunConfig) (c : Codemod) (paths : List Path) :
    Action TransformError Report := do
  let kind ← runnerFor s c
  runAs kind s config c paths

end Runner

namespace Project

/-- Run codemods one after the other, each on the files of its kind. The first that fails as a whole
    ends the run. -/
def runCodemods (p : Project) (s : Services) (dry : Bool) (parser : Option String) :
    List Codemod → Action TransformError (List CodemodReport)
  | [] => return []
  | c :: rest => do
    let paths := p.filesWith c.kind.extensions
    let report ← Runner.run s { dry, cwd := some p.cwd, parser } c paths
    let reports ← p.runCodemods s dry parser rest
    return ⟨c, report⟩ :: reports

end Project

end Uplift
