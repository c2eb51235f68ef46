import Uplift.Report.Envelope
import Uplift.Report.Markdown
import Uplift.Tree

set_option autoImplicit false

/-! # Report files

The outcome of a run can be written to a file: in markdown if the name of the file says so, for
machines otherwise. A run that failed has a report too. -/

namespace Uplift.Cli

/-- The text of a report in the format that fits the path of its file. -/
def reportText (e : Envelope) (path : Path) : String :=
  if path.extension? = some "md" then Markdown.report e.reports e.totals else e.text

/-- Make a directory and those above it, unless it is there. -/
def makeDirs (t : Tree) (cwd dir : Path) : Except Fault Tree :=
  let place := cwd.join dir
  if t.isDir place then .ok t
  else match t.makeDir place with
    | some t => .ok t
    | none =>
      let reason := if t.has place then "File exists (os error 17)" else "Not a directory (os error 20)"
      .error ⟨"create " ++ dir.text, ["failed to create directory `" ++ dir.text ++ "`: " ++ reason]⟩

/-- Write a report to a path, which is seen from a working directory. -/
def writeReport (t : Tree) (cwd : Path) (e : Envelope) (path : Path) : Except Fault Tree := do
  let t ← match path.parent? with
    | some dir => if dir.text = "" then pure t else makeDirs t cwd dir
    | none => pure t
  let written := if path.text = "" then none else t.write (cwd.join path) (.text (reportText e path))
  match written with
  | some t => return t
  | none =>
    let reason := if path.text = "" then "No such file or directory (os error 2)"
      else "Is a directory (os error 21)"
    throw ⟨"write " ++ path.text, ["failed to create file `" ++ path.text ++ "`: " ++ reason]⟩

end Uplift.Cli
