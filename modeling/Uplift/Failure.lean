import Uplift.Error
import Uplift.Range
import Uplift.Transform

set_option autoImplicit false

/-! # Failures of a run

Every way in which an upgrade or a codemod run can end early. A failure that an outside party brought
about shows that party's fault with all its causes, and has them as its own causes as well. -/

namespace Uplift

/-- Why a run ended early. -/
inductive Failure where
  /-- The domain refused something. -/
  | domain (e : Error)
  /-- A codemod could not be run. -/
  | transform (e : TransformError)
  /-- No published version is in the range. -/
  | noCandidate (package : String) (range : Range)
  /-- The target is the installed version. -/
  | alreadyUpToDate (package : String) (version : Version)
  /-- There is no codemod with this uid. -/
  | unknownCodemod (uid : String)
  /-- The registry could not be asked. -/
  | registry (package : String) (fault : Fault)
  /-- The dependencies could not be installed. -/
  | install (manager : String) (fault : Fault)
  /-- The manifest could not be written. -/
  | manifest (path : Path) (fault : Fault)
  /-- The selection failed. -/
  | selection (fault : Fault)
  deriving DecidableEq, Repr

namespace Failure

/-- The wording of a failure. -/
def message : Failure → String
  | .domain e => e.message
  | .transform e => e.message
  | .noCandidate package range => "no published version of " ++ package ++ " matches " ++ range.text
  | .alreadyUpToDate package version =>
    "already up to date: " ++ package ++ " is at " ++ version.text
  | .unknownCodemod uid => "unknown codemod: " ++ uid
  | .registry package fault =>
    "could not fetch versions of " ++ package ++ " from the registry: " ++ fault.line
  | .install manager fault => manager ++ " install failed: " ++ fault.line
  | .manifest path fault => "could not update manifest " ++ path.text ++ ": " ++ fault.line
  | .selection fault => fault.message

/-- The messages of the causes. -/
def causes : Failure → List String
  | .transform e => e.causes
  | .registry _ fault | .install _ fault | .manifest _ fault => fault.messages
  | .selection fault => fault.causes
  | _ => []

/-- The failure as a fault: its wording and its causes. -/
def fault (f : Failure) : Fault := ⟨f.message, f.causes⟩

end Failure

end Uplift
