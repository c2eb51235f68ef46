import Uplift.Process

set_option autoImplicit false

/-! # Package managers

The package manager of a project is told by its lock file. It knows the registry that the project
uses, and it installs the dependencies. -/

namespace Uplift

/-- The package managers. -/
inductive PackageManager where
  | npm | yarn | pnpm
  deriving DecidableEq, Repr

namespace PackageManager

/-- The program of a package manager. -/
def program : PackageManager → String
  | .npm => "npm"
  | .yarn => "yarn"
  | .pnpm => "pnpm"

/-- The file in which a package manager keeps the versions that it installed. -/
def lockFile : PackageManager → String
  | .npm => "package-lock.json"
  | .yarn => "yarn.lock"
  | .pnpm => "pnpm-lock.yaml"

/-- The package manager of a project: the first one with a lock file, or else npm. -/
def detect (t : Tree) (cwd : Path) : PackageManager :=
  ([PackageManager.pnpm, .yarn, .npm].find? fun m => t.isFile (cwd.child m.lockFile)).getD .npm

/-- The question for the registry. -/
def registryCall (m : PackageManager) (cwd : Path) : Invocation :=
  { program := m.program, args := ["config", "get", "registry"], cwd := some cwd }

/-- The registry that is configured for a project, if there is one. -/
def registry (m : PackageManager) (launch : Launcher) (t : Tree) (cwd : Path) :
    Except Fault (Option String) := do
  let o ← (launch.output ("run " ++ m.program ++ " config get registry") (m.registryCall cwd) t).1
  if !o.succeeded then throw ⟨m.program ++ " config get registry: " ++ o.complaint, []⟩
  let url := Text.trimmed o.stdout
  return if url = "" ∨ url = "undefined" then none else some url

/-- The order to install. -/
def installCall (m : PackageManager) (cwd : Path) : Invocation :=
  { program := m.program, args := ["install"], cwd := some cwd }

/-- Install the dependencies of a project. -/
def install (m : PackageManager) (launch : Launcher) (cwd : Path) (t : Tree) :
    Except Fault Unit × Tree :=
  match launch.output ("run " ++ m.program ++ " install") (m.installCall cwd) t with
  | (.error fault, t) => (.error fault, t)
  | (.ok o, t) =>
    if o.succeeded then (.ok (), t)
    else (.error ⟨m.program ++ " install exited with " ++ o.statusText, []⟩, t)

end PackageManager

end Uplift
