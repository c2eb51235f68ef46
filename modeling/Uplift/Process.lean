import Uplift.Fault
import Uplift.Text.Numeral
import Uplift.Tree

set_option autoImplicit false

/-! # Programs

Git, package managers and engines are programs outside. A program that runs may change the files; it
leaves an exit status and what it printed. A program that cannot be started leaves a fault. -/

namespace Uplift

/-- A program to run. -/
structure Invocation where
  program : String
  args : List String
  /-- The working directory, if it is not that of the caller. -/
  cwd : Option Path := none
  deriving DecidableEq, Repr

/-- What a program left. -/
structure Output where
  exit : Nat := 0
  stdout : String := ""
  stderr : String := ""
  deriving DecidableEq, Repr

namespace Output

/-- Whether the program succeeded. -/
def succeeded (o : Output) : Bool := o.exit = 0

/-- The wording of the exit status. -/
def statusText (o : Output) : String := "exit status: " ++ Text.decimal o.exit

/-- What was printed as errors, without blanks around it. -/
def complaint (o : Output) : String := Text.trimmed o.stderr

end Output

/-- How programs are run. -/
abbrev Launcher := Invocation → Tree → Except Fault Output × Tree

/-- What a program leaves, with a context for a program that cannot be started. -/
def Launcher.output (launch : Launcher) (context : String) (call : Invocation) (t : Tree) :
    Except Fault Output × Tree :=
  match launch call t with
  | (.ok o, t) => (.ok o, t)
  | (.error fault, t) => (.error (fault.within context), t)

end Uplift
