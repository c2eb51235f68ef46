import Uplift.Engine.Summary
import Uplift.Process
import Uplift.World

set_option autoImplicit false

/-! # Engines on the command line

An engine is a program with arguments of its own. It is called with a codemod and files, and what it
did is read from the summary at the end of its output; its exit status counts only when there is no
summary. -/

namespace Uplift

/-- The program of an engine and the arguments that come before those of a call. -/
structure EngineProgram where
  program : String := "jscodeshift"
  args : List String := []
  deriving DecidableEq, Repr

namespace EngineProgram

/-- The arguments of a call. -/
def argsFor (e : EngineProgram) (call : EngineCall) : List String :=
  e.args ++ ["--transform=" ++ call.transform.text]
    ++ (if call.extensions.isEmpty then []
        else ["--extensions=" ++ Text.joined "," call.extensions])
    ++ (match call.parser with
      | some parser => ["--parser=" ++ parser]
      | none => [])
    ++ (if call.dry then ["--dry"] else [])
    ++ call.paths.map Path.text

/-- The invocation of a call. -/
def invocation (e : EngineProgram) (call : EngineCall) : Invocation :=
  { program := e.program, args := e.argsFor call, cwd := call.cwd }

/-- What the output of a call comes to. -/
def replyOf (e : EngineProgram) (o : Output) : EngineReply :=
  match Summary.read o.stdout with
  | .report r => .report r
  | .overflow => .overflow
  | .missing =>
    if o.succeeded then .fault ⟨e.program ++ " printed no results summary", []⟩
    else .fault ⟨e.program ++ " exited with " ++ o.statusText ++ ": " ++ o.complaint, []⟩

/-- Call the program. -/
def apply (e : EngineProgram) (launch : Launcher) (call : EngineCall) (t : Tree) :
    EngineReply × Tree :=
  match launch.output ("spawn " ++ e.program) (e.invocation call) t with
  | (.error fault, t) => (.fault fault, t)
  | (.ok o, t) => (e.replyOf o, t)

/-- The program as an engine. -/
def engine (e : EngineProgram) (launch : Launcher) : Engine := fun _ call t => e.apply launch call t

end EngineProgram

end Uplift
