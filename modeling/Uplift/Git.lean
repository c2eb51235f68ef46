import Uplift.Process

set_option autoImplicit false

/-! # Git

What an upgrade asks git about a project. Git that cannot be started is not installed; for the other
questions that is a fault. -/

namespace Uplift

/-- What git says about a project. -/
structure Git where
  installed : Except Fault Bool
  repository : Except Fault Bool
  /-- Whether there are changes; nothing if that cannot be told. -/
  changed : Except Fault (Option Bool)

namespace Git

/-- The question whether git is installed. -/
def versionCall : Invocation := { program := "git", args := ["--version"] }

/-- The question whether a directory is in a repository. -/
def repositoryCall (root : Path) : Invocation :=
  { program := "git", args := ["-C", root.text, "rev-parse", "--is-inside-work-tree"] }

/-- The question whether there are changes. -/
def statusCall (root : Path) : Invocation :=
  { program := "git", args := ["-C", root.text, "status", "--porcelain"] }

/-- Ask the program. -/
def ask (launch : Launcher) (t : Tree) (root : Path) : Git where
  installed :=
    match (launch versionCall t).1 with
    | .ok o => .ok o.succeeded
    | .error _ => .ok false
  repository := do
    let o ← (launch.output "run git rev-parse" (repositoryCall root) t).1
    return o.succeeded && Text.trimmed o.stdout = "true"
  changed := do
    let o ← (launch.output "run git status" (statusCall root) t).1
    return if o.succeeded then some (!o.stdout.isEmpty) else none

end Git

end Uplift
