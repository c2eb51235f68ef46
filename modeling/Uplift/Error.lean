import Uplift.Path
import Uplift.Version.Text
import Uplift.Wildcard

set_option autoImplicit false

/-! # Errors of the domain

Every way in which versions, ranges, the repository, the manifest, the project scan and the
requirements can be refused, with the cause as data. The wording is in `Error.message` alone. -/

namespace Uplift

/-- Why a range text was refused. -/
inductive RangeFault where
  | badVersion (token : String)
  | exactCombined
  | duplicateBound
  deriving DecidableEq, Repr

/-- The wording of a range fault. -/
def RangeFault.message : RangeFault → String
  | .badVersion token => "bad version '" ++ token ++ "'"
  | .exactCombined => "exact version cannot be combined"
  | .duplicateBound => "duplicate bound"

/-- Why a directory is no codemod repository. -/
inductive RepositoryFault where
  | noDirectory
  | noVersions
  | badPattern (pattern : String) (fault : WildcardFault)
  deriving DecidableEq, Repr

/-- The wording of a repository fault. -/
def RepositoryFault.message : RepositoryFault → String
  | .noDirectory => "directory does not exist"
  | .noVersions => "no valid version directories found"
  | .badPattern pattern fault => "glob " ++ pattern ++ ": " ++ fault.message

/-- Why a file is no manifest. -/
inductive ManifestFault where
  | unreadable
  | notJson
  | notObject
  deriving DecidableEq, Repr

/-- The wording of a manifest fault. -/
def ManifestFault.message : ManifestFault → String
  | .unreadable => "the file could not be read"
  | .notJson => "the file is not valid JSON"
  | .notObject => "expected a JSON object"

/-- Why a project could not be scanned. -/
inductive ScanFault where
  | badPattern (pattern : String)
  deriving DecidableEq, Repr

/-- The wording of a scan fault. -/
def ScanFault.message : ScanFault → String
  | .badPattern pattern => "bad exclude pattern '" ++ pattern ++ "'"

/-- A refusal by the domain. -/
inductive Error where
  /-- A text that should be a version is none. -/
  | invalidVersion (input : String)
  /-- An exact target that does not move forward. -/
  | invalidTarget (current target : Version)
  /-- A text that should be a range is none. -/
  | invalidRange (input : String) (fault : RangeFault)
  /-- A directory that should be a codemod repository is none. -/
  | invalidRepository (root : Path) (fault : RepositoryFault)
  /-- A file that should be a manifest is none. -/
  | invalidManifest (path : Path) (fault : ManifestFault)
  /-- The candidate files of a project could not be listed. -/
  | projectScan (root : Path) (fault : ScanFault)
  /-- The installed version of the framework could not be found. -/
  | missingDependency (package : String) (cwd : Path)
  /-- A requirement failed and was not waved through. -/
  | requirementFailed (name message : String)
  deriving DecidableEq, Repr

namespace Error

/-- The wording of an error. -/
def message : Error → String
  | .invalidVersion input => "invalid version: '" ++ input ++ "'"
  | .invalidTarget current target =>
    "invalid target: " ++ target.text ++ " must be greater than the current version "
      ++ current.text
  | .invalidRange input fault => "invalid range: '" ++ input ++ "': " ++ fault.message
  | .invalidRepository root fault =>
    "invalid codemods repository at " ++ root.text ++ ": " ++ fault.message
  | .invalidManifest path fault => "invalid manifest at " ++ path.text ++ ": " ++ fault.message
  | .projectScan root fault => "could not scan project at " ++ root.text ++ ": " ++ fault.message
  | .missingDependency package cwd =>
    "missing dependency: could not resolve a version for '" ++ package ++ "' from " ++ cwd.text
  | .requirementFailed name message => "requirement failed: " ++ name ++ ": " ++ message

/-- Whether the error came from a requirement. -/
def isRequirementFailure : Error → Bool
  | .requirementFailed .. => true
  | _ => false

end Error

/-- Read a version leniently: blanks around it and one leading `v` are dropped. -/
def Version.parse (input : String) : Except Error Version :=
  match Version.readLenient? input with
  | some v => .ok v
  | none => .error (.invalidVersion input)

end Uplift
