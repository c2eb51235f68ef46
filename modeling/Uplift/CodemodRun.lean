import Uplift.Failure
import Uplift.Repository
import Uplift.Runner
import Uplift.Selection

set_option autoImplicit false

/-! # Codemod runs

Codemods of a repository are run on a project, chosen by a range of versions or by uid. Those of a
range may be narrowed by a selector, and are run with versions ascending. -/

namespace Uplift

/-- Which codemods to run. -/
inductive Selection where
  /-- Those newer than the installed version; all of them for plugins. -/
  | pending
  | range (r : Range)
  | uid (u : String)
  deriving DecidableEq, Repr

/-- A codemod run: how, with what, and on what. -/
structure CodemodRun where
  project : Project
  repository : Repository
  services : Services
  dry : Bool := false
  parser : Option String := none
  selector : Option Selector := none

namespace CodemodRun

/-- Run these codemods. -/
def runAll (r : CodemodRun) (codemods : List Codemod) : Action Failure (List CodemodReport) :=
  (r.project.runCodemods r.services r.dry r.parser codemods).mapError .transform

/-- Narrow the matched collections. -/
def select (r : CodemodRun) (matched : List Collection) : Action Failure (List Collection) :=
  match r.selector with
  | none => return matched
  | some selector => do
    Action.record (.select (matched.map (·.version)))
    match selector matched with
    | .ok selected => return selected
    | .error fault => throw (.selection fault)

/-- The collections of a range, before selection. -/
def matched (r : CodemodRun) (range : Range) : List Collection := r.repository.inRange range

/-- Run the codemods of a range. -/
def runRange (r : CodemodRun) (range : Range) : Action Failure (List CodemodReport) := do
  let selected ← r.select (r.matched range)
  r.runAll (Collection.flattenAscending selected)

/-- Run the codemod with a uid. -/
def runUid (r : CodemodRun) (uid : String) : Action Failure (List CodemodReport) :=
  match r.repository.withUid? uid with
  | none => throw (.unknownCodemod uid)
  | some c => r.runAll [c]

/-- Run what a selection names. -/
def run (r : CodemodRun) : Selection → Action Failure (List CodemodReport)
  | .uid uid => r.runUid uid
  | .range range => r.runRange range
  | .pending =>
    match r.project.pending with
    | .ok range => r.runRange range
    | .error e => throw (.domain e)

end CodemodRun

end Uplift
