import Uplift.Git
import Uplift.Requirement
import Uplift.Text.Numeral

set_option autoImplicit false

/-! # Requirements of an upgrade

A major upgrade starts from the newest release of the current major line and needs the next line to
be published. With git checks on, git should be installed, the project should be in a git
repository, and its working tree should be clean; each of the three can be waved through. -/

namespace Uplift

/-- What the requirements of an upgrade can see. -/
structure UpgradeContext where
  cwd : Path
  /-- The installed version; plugins have none. -/
  current : Option Version
  target : Version
  /-- The published versions. -/
  available : List Version
  git : Git

namespace UpgradeContext

/-- The releases of the line of `current` that are newer than it. -/
def newerInLine (available : List Version) (current : Version) : List Version :=
  available.filter fun v => v.major = current.major && v.isStable && v.order current = .gt

/-- Whether `current` is the newest release of its line. -/
def checkNewest (ctx : UpgradeContext) : Except Fault Unit :=
  match ctx.current with
  | none => .ok ()
  | some current =>
    match Version.greatest? (newerInLine ctx.available current) with
    | none => .ok ()
    | some latest =>
      .error ⟨current.text ++ " is not the latest " ++ Text.decimal current.major.toNat
        ++ ".x release; upgrade to " ++ latest.text ++ " first", []⟩

/-- The major number that the next line has. -/
def nextLine (ctx : UpgradeContext) : UInt64 :=
  match ctx.current with
  | none => ctx.target.major
  | some current => current.major + 1

/-- Whether a release of the next line is published. -/
def checkNextLine (ctx : UpgradeContext) : Except Fault Unit :=
  if ctx.available.any fun v => v.major = ctx.nextLine && v.isStable then .ok ()
  else .error ⟨"no " ++ Text.decimal ctx.nextLine.toNat ++ ".x release has been published", []⟩

/-- Whether git is installed. -/
def checkGit (ctx : UpgradeContext) : Except Fault Unit := do
  if ← ctx.git.installed then .ok () else .error ⟨"git executable not found", []⟩

/-- Whether the project is in a git repository. -/
def checkRepository (ctx : UpgradeContext) : Except Fault Unit := do
  if ← ctx.git.repository then .ok ()
  else .error ⟨ctx.cwd.text ++ " is not inside a git repository", []⟩

/-- Whether the working tree is clean. -/
def checkClean (ctx : UpgradeContext) : Except Fault Unit := do
  match ← ctx.git.changed with
  | some false => .ok ()
  | some true => .error ⟨"uncommitted changes in " ++ ctx.cwd.text, []⟩
  | none => .error ⟨"could not read git status in " ++ ctx.cwd.text, []⟩

end UpgradeContext

/-- A requirement of an upgrade. -/
abbrev UpgradeRequirement := Requirement UpgradeContext

namespace UpgradeRequirement

open UpgradeContext

/-- The requirements of a major upgrade. -/
def major : List UpgradeRequirement := [
  .node "current version is the latest of its major" true .versions checkNewest [],
  .node "next major version is available" true .versions checkNextLine []]

/-- The git requirements. -/
def git : UpgradeRequirement :=
  .node "git is installed" false .gitInstalled checkGit [
    .node "project is a git repository" false .gitRepository checkRepository [
      .node "git working tree is clean" false .gitStatus checkClean []]]

end UpgradeRequirement

end Uplift
