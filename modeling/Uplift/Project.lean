import Uplift.Manifest
import Uplift.Project.Scan
import Uplift.Target

set_option autoImplicit false

/-! # Projects

A project is a directory with a manifest. It is a plugin if its manifest says so under the
framework's key, and an application otherwise; an application has the framework installed in a
version, which is the one that it pins or the one that it finds among the installed packages. The
kind is settled when the project is loaded and stays; manifest and files can be refreshed. -/

namespace Uplift

/-- What a project is. -/
inductive ProjectKind where
  | application (version : Version)
  | plugin
  deriving DecidableEq, Repr

namespace ProjectKind

/-- The name of a kind. -/
def text : ProjectKind → String
  | .application _ => "application"
  | .plugin => "plugin"

/-- The installed version of the framework; plugins have none. -/
def version? : ProjectKind → Option Version
  | .application v => some v
  | .plugin => none

/-- What is scanned of a project of this kind. -/
def policy : ProjectKind → Policy
  | .application _ => .application
  | .plugin => .plugin

end ProjectKind

/-- A loaded project. -/
structure Project where
  cwd : Path
  framework : Framework
  manifestPath : Path
  manifest : Json
  kind : ProjectKind
  files : List Path
  deriving Repr

namespace Project

/-! ## Loading -/

/-- The manifest of an installed package, in the directory or the nearest one above it. -/
def installedManifest (t : Tree) (cwd : Path) (package : String) : Option Path :=
  (cwd.ancestors.map fun d => ((d.child "node_modules").child package).child manifestFile).find?
    t.isFile

/-- The version of the framework: the one that the manifest pins, else the installed one. -/
def frameworkVersion (t : Tree) (cwd : Path) (m : Json) (f : Framework) : Except Error Version :=
  match Manifest.pinned m f with
  | some v => .ok v
  | none =>
    match installedManifest t cwd f.package with
    | none => .error (.missingDependency f.package cwd)
    | some path => do
      let installed ← Manifest.read t path
      match (installed.member? "version").bind Json.str? with
      | none => .error (.missingDependency f.package cwd)
      | some raw => Version.parse raw

/-- Whether the manifest says that the project is a plugin. -/
def saysPlugin (m : Json) (f : Framework) : Bool :=
  (((m.member? f.key).bind (·.member? "kind")).bind Json.str?) = some "plugin"

/-- The kind of a project. -/
def classify (t : Tree) (cwd : Path) (m : Json) (f : Framework) : Except Error ProjectKind :=
  if saysPlugin m f then .ok .plugin
  else (frameworkVersion t cwd m f).map .application

/-- Load the project in a directory. -/
def load (t : Tree) (cwd : Path) (f : Framework) : Except Error Project := do
  let manifestPath := cwd.child manifestFile
  let manifest ← Manifest.read t manifestPath
  let kind ← classify t cwd manifest f
  let files ← Scan.files t cwd kind.policy
  return { cwd, framework := f, manifestPath, manifest, kind, files }

/-- List the files again: the outcome and the project after it. -/
def rescan (t : Tree) (p : Project) : Except Error Unit × Project :=
  match Scan.files t p.cwd p.kind.policy with
  | .ok files => (.ok (), { p with files })
  | .error e => (.error e, p)

/-- Read the manifest again, then list the files again: the outcome and the project after it. -/
def refresh (t : Tree) (p : Project) : Except Error Unit × Project :=
  match Manifest.read t p.manifestPath with
  | .ok manifest => { p with manifest }.rescan t
  | .error e => (.error e, p)

/-! ## Queries -/

/-- The installed version of the framework; plugins have none. -/
def version? (p : Project) : Option Version := p.kind.version?

/-- The files with one of these extensions. -/
def filesWith (p : Project) (extensions : List String) : List Path :=
  p.files.filter (·.hasExtension extensions)

/-- The versions whose codemods lead to a target. A plugin has no version to start from, so a release
    type stands for all versions there and an exact target for all up to it. -/
def rangeTo (p : Project) (target : Target) : Except Error Range :=
  match p.kind, target with
  | .application v, _ => Range.ofTarget v target
  | .plugin, .exact v => .ok (Range.upTo v)
  | .plugin, .release _ => .ok Range.any

/-- The versions whose codemods have not been run yet. -/
def pending (p : Project) : Except Error Range := p.rangeTo (.release .latest)

end Project

end Uplift
