import Uplift.Codemod
import Uplift.Fault
import Uplift.Patch.Text
import Uplift.Tree

set_option autoImplicit false

/-! # Document transforms

A document codemod turns the JSON of a file into other JSON. Its transform is looked up among the
registered ones, by uid and then by name, and is otherwise the patch in the codemod's own file. A
transform that yields no document is at fault; it does not mean "no change". -/

namespace Uplift

/-- What is made of the document at a path: a new document, none, or a fault. -/
abbrev Transform := Path → Json → Except Fault (Option Json)

/-- Why a codemod as a whole could not be run. -/
inductive TransformError where
  /-- A runner was given a codemod of another kind. -/
  | invalidCodemod (uid : String) (kind runner : Kind)
  /-- There is no runner for the kind of the codemod. -/
  | noRunner (uid : String) (kind : Kind)
  /-- The engine failed. -/
  | engine (uid : String) (fault : Fault)
  /-- The engine gave a time that is out of the range of durations, which ends the program. -/
  | overflow (uid : String)
  /-- The transform of a document codemod could not be loaded. -/
  | load (path : Path) (fault : Patch.LoadFault)
  deriving DecidableEq, Repr

namespace TransformError

/-- The wording of an error. -/
def message : TransformError → String
  | .invalidCodemod uid kind runner =>
    "invalid codemod " ++ uid ++ ": " ++ kind.text ++ " codemods cannot run on the " ++ runner.text
      ++ " runner"
  | .noRunner uid kind => "no runner registered for " ++ kind.text ++ " codemod " ++ uid
  | .engine uid fault => "source-transform engine failed for " ++ uid ++ ": " ++ fault.line
  | .overflow uid => "the time of the source-transform engine is out of range for " ++ uid
  | .load path fault =>
    "could not load document codemod " ++ path.text ++ ": " ++ fault.message

/-- The messages of the causes. -/
def causes : TransformError → List String
  | .engine _ fault => fault.messages
  | _ => []

end TransformError

namespace Transform

/-- Apply a patch. -/
def ofPatch (p : Patch) : Transform := fun _ d =>
  match p.apply d with
  | .ok d' => .ok (some d')
  | .error failure => .error ⟨"apply json patch", [failure.message]⟩

/-- The patch in a file. -/
def patchAt (t : Tree) (path : Path) : Except TransformError Patch :=
  match t.readText path with
  | none => .error (.load path .unreadable)
  | some text =>
    match Patch.ofText path.extension? text with
    | .ok p => .ok p
    | .error fault => .error (.load path fault)

/-- The transform of a codemod: the one registered for its uid or its name, else its patch. -/
def load (registered : Fields Transform) (t : Tree) (c : Codemod) :
    Except TransformError Transform :=
  match (registered.get? c.uid).or (registered.get? c.name) with
  | some transform => .ok transform
  | none => (patchAt t c.path).map ofPatch

end Transform

end Uplift
