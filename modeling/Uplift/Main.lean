import Uplift.Cli

set_option autoImplicit false

/-! # The program

The command line as a filter. A snapshot of the files comes in on standard input as a JSON object,
together with the working directory, the id of the run and the time; what came of the command goes
out as another one, with the files that it changed. So a run can be looked at before anything happens
to the files themselves. Programs are not started and nothing is requested from here, which shows as
a fault where a command needs it. -/

namespace Uplift.Cli

/-! ## Snapshots -/

/-- What is run on, where, and how the report is to be labelled. -/
structure Snapshot where
  cwd : Path
  runId : String
  time : String
  tree : Tree

/-- The files of an object from paths to texts. Paths are seen from a working directory; what cannot
    be placed is left out. -/
def treeOf (cwd : Path) (files : Fields Json) : Tree :=
  files.foldl (fun t (path, content) =>
    match content with
    | .str text => (t.writeDeep (cwd.join ⟨path⟩) (.text text)).getD t
    | _ => t) (((Tree.dir []).makeDir cwd).getD (.dir []))

/-- Read a snapshot. -/
def Snapshot.read? (text : String) : Option Snapshot := do
  let input ← Json.read? text
  let .obj files ← input.member? "files" | none
  let member (key default : String) : String := ((input.member? key).bind Json.str?).getD default
  let cwd : Path := ⟨member "cwd" "/"⟩
  return { cwd, runId := member "run_id" "", time := member "time" "", tree := treeOf cwd files }

/-- The files that differ between two trees; a file that is gone is null. -/
def changes (before after : Tree) : Fields Json :=
  let written := after.files.filterMap fun (place, content) =>
    match content with
    | .text text =>
      if before.files.lookup place = some content then none
      else some ("/" ++ Text.joined "/" place, Json.str text)
    | .raw _ => none
  let gone := before.files.filter fun (place, _) => (after.files.lookup place).isNone
  written ++ gone.map fun (place, _) => ("/" ++ Text.joined "/" place, Json.null)

/-! ## Running -/

/-- A machine without programs and without a network. -/
def offline (runId time : String) : Machine where
  launch _ t := (.error ⟨"programs are not started from here", []⟩, t)
  fetch _ := .error ⟨"nothing is requested from here", []⟩
  overflow := .wrap
  runId
  time

/-- What came of a command line, with the files that it changed. -/
def Outcome.toJson (o : Outcome) (before : Tree) : Json :=
  let failure := match o.ending with
    | .failure fault => Json.str fault.line
    | _ => Json.null
  .obj [("exit", .ofNat o.ending.exit), ("stdout", .str o.stdout), ("failure", failure),
    ("files", .obj (changes before o.tree))]

/-- Run a command line on a snapshot. -/
def Snapshot.run (s : Snapshot) (args : List String) : Outcome :=
  Cli.run (offline s.runId s.time) s.cwd args s.tree

/-- The rest of a stream. -/
partial def readAll (input : IO.FS.Stream) (sofar : String) : IO String := do
  let line ← input.getLine
  if line.isEmpty then return sofar else readAll input (sofar ++ line)

end Uplift.Cli

/-- Run the arguments on the snapshot that comes in. -/
def main (args : List String) : IO UInt32 := do
  let text ← Uplift.Cli.readAll (← IO.getStdin) ""
  match Uplift.Cli.Snapshot.read? text with
  | none =>
    IO.eprintln "standard input holds no snapshot of files"
    return 2
  | some snapshot =>
    let outcome := snapshot.run args
    IO.println (outcome.toJson snapshot.tree).compact
    return outcome.ending.exit.toUInt32
