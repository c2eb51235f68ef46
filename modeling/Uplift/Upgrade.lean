import Uplift.CodemodRun
import Uplift.Upgrade.Requirements

set_option autoImplicit false

/-! # Upgrades

An upgrade goes through stages, and the first that fails ends it: the target is resolved from the
published versions, the requirements are tested, the codemods on the way are run, the project is
refreshed, the framework is pinned anew in the manifest, and the dependencies are installed. In a
dry run codemods report without writing and the last two stages are left out. Nothing is undone. -/

namespace Uplift

/-- The outside parties of an upgrade. They see the log before they are called. -/
structure Parties where
  registry : List Event → String → Except Fault (List Version)
  confirm : List Event → String → Except Fault Bool
  git : Git
  /-- The name of the package manager. -/
  manager : String
  install : List Event → Path → Tree → Except Fault Unit × Tree

/-- An upgrade: to what, how, and with what. -/
structure Upgrade where
  repository : Repository
  services : Services
  parties : Parties
  target : Target
  /-- The version up to which codemods are run, if it is not the target. -/
  codemodsTarget : Option Version := none
  dry : Bool := false
  parser : Option String := none
  gitChecks : Bool := true
  /-- Requirements beside the builtin ones, tested after them. -/
  requirements : List UpgradeRequirement := []
  selector : Option Selector := none

/-- What a successful upgrade did. -/
structure Upgraded where
  /-- The version before; plugins have none. -/
  old : Option Version
  new : Version
  reports : List CodemodReport
  /-- The dependencies that were pinned anew. -/
  bumped : List String
  deriving DecidableEq, Repr

namespace Upgrade

/-! ## Target -/

/-- The published version that a target stands for. Prereleases are reached by exact targets only. -/
def resolveTarget (target : Target) (p : Project) (available : List Version) :
    Except Failure Version :=
  let package := p.framework.package
  match target with
  | .exact v => do
    if let some current := p.version? then
      let _ ← (Range.ofTarget current target).mapError Failure.domain
    if available.contains v then return v else throw (.noCandidate package (Range.exact v))
  | .release _ => do
    let range ← (p.rangeTo target).mapError Failure.domain
    match Version.greatest? (available.filter fun v => v.isStable && range.contains v) with
    | some v => return v
    | none => throw (.noCandidate package range)

/-- Ask the registry for the published versions. -/
def fetch (u : Upgrade) (package : String) : Action Failure (List Version) := do
  let answer := u.parties.registry (← get).log package
  Action.record (.registry package)
  match answer with
  | .ok available => return available
  | .error fault => throw (.registry package fault)

/-! ## Requirements -/

/-- The requirements of an upgrade: those of a major upgrade, those on git, and the others. -/
def chain (u : Upgrade) (current : Option Version) : List UpgradeRequirement :=
  (if u.target = .release .major && current.isSome then UpgradeRequirement.major else [])
    ++ (if u.gitChecks then [UpgradeRequirement.git] else [])
    ++ u.requirements

/-- Test the requirements. -/
def checkRequirements (u : Upgrade) (ctx : UpgradeContext) : Action Failure Unit := do
  let log := (← get).log
  let confirm : Confirm := fun seen question =>
    u.parties.confirm (log ++ seen.map .inquiry) question
  let (outcome, inquiries) := Requirement.testAll ctx confirm (u.chain ctx.current) []
  modify fun w => { w with log := w.log ++ inquiries.map .inquiry }
  match outcome with
  | .ok () => return ()
  | .error e => throw (.domain e)

/-! ## Codemods -/

/-- Run the codemods on the way to a version. -/
def runCodemods (u : Upgrade) (p : Project) (new : Version) : Action Failure (List CodemodReport) :=
  do
  let range ← (p.rangeTo (.exact (u.codemodsTarget.getD new))).mapError Failure.domain
  let run : CodemodRun := {
    project := p, repository := u.repository, services := u.services, dry := u.dry,
    parser := u.parser, selector := u.selector }
  run.runRange range

/-- The stages before the refresh: the version that the target stands for, and the reports. -/
def prepare (u : Upgrade) (p : Project) : Action Failure (Version × List CodemodReport) := do
  let package := p.framework.package
  let current := p.version?
  if let .exact v := u.target then
    if current = some v then throw (.alreadyUpToDate package v)
  let available ← u.fetch package
  let new ← resolveTarget u.target p available
  u.checkRequirements { cwd := p.cwd, current, target := new, available, git := u.parties.git }
  let reports ← u.runCodemods p new
  return (new, reports)

/-! ## Manifest and dependencies -/

/-- Pin the framework's dependencies to the new version. Plugins have no pins, and a manifest without
    any is not written. -/
def pinManifest (p : Project) (new : Version) : Action Failure (List String) := do
  match p.version? with
  | none => return []
  | some old =>
    let bumped := Manifest.pins p.manifest p.framework old
    if bumped.isEmpty then return []
    let manifest := Manifest.bump p.manifest p.framework old new
    if ← Action.write p.manifestPath manifest.fileText then return bumped
    else throw (.manifest p.manifestPath ⟨"the file could not be written", []⟩)

/-- Install the dependencies. -/
def install (u : Upgrade) (p : Project) : Action Failure Unit := do
  let w ← get
  let (outcome, tree) := u.parties.install w.log p.cwd w.tree
  set { w with tree }
  Action.record (.install p.cwd)
  match outcome with
  | .ok () => return ()
  | .error fault => throw (.install u.parties.manager fault)

/-- The stages after the refresh: the dependencies that were pinned anew. -/
def commit (u : Upgrade) (p : Project) (new : Version) : Action Failure (List String) := do
  if u.dry then return []
  let bumped ← pinManifest p new
  u.install p
  return bumped

/-! ## The whole upgrade -/

/-- Upgrade a project: the outcome, and project and world after it. -/
def run (u : Upgrade) (p : Project) (w : World) : Except Failure Upgraded × Project × World :=
  match (u.prepare p).on w with
  | (.error e, w) => (.error e, p, w)
  | (.ok (new, reports), w) =>
    match p.refresh w.tree with
    | (.error e, refreshed) => (.error (.domain e), refreshed, w)
    | (.ok (), refreshed) =>
      match (u.commit refreshed new).on w with
      | (.error e, w) => (.error e, refreshed, w)
      | (.ok bumped, w) => (.ok { old := p.version?, new, reports, bumped }, refreshed, w)

end Upgrade

end Uplift
