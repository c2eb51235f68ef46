import Uplift.Error
import Uplift.Json.Parser
import Uplift.Json.Printer
import Uplift.Tree

set_option autoImplicit false

/-! # Manifests

A project has a manifest, a JSON object in `package.json`. Its `dependencies` pin the framework and,
when the framework's package is scoped (`@acme/core`), the other packages of its scope
(`@acme/...`). A manifest is written with two-space indentation and a line end, keys in their
order. -/

namespace Uplift

open Text

/-- The name of the manifest file. -/
def manifestFile : String := "package.json"

/-- The framework of a project, by its package. -/
structure Framework where
  package : String
  deriving DecidableEq, Repr

namespace Framework

/-- The scope of a package: what comes before the first slash if it starts with `@`, else the package
    itself. -/
def scope (f : Framework) : String :=
  match splitFirst '/' f.package.toList with
  | some (front, _) => if front.head? = some '@' then String.ofList front else f.package
  | none => f.package

/-- Whether a dependency belongs to the framework: it is in the scope, or it is the package when there
    is no scope. -/
def owns (f : Framework) (dependency : String) : Bool :=
  if f.scope.toList.head? = some '@' then
    match dropPrefix? f.scope.toList dependency.toList with
    | some rest => rest.head? = some '/'
    | none => false
  else dependency = f.package

/-- The manifest key that holds what the framework says about a project. -/
def key (f : Framework) : String := String.ofList (f.scope.toList.dropWhile (· = '@'))

end Framework

namespace Manifest

/-- Read the manifest at a path. -/
def read (t : Tree) (p : Path) : Except Error Json :=
  match t.readText p with
  | none => .error (.invalidManifest p .unreadable)
  | some text =>
    match Json.read? text with
    | none => .error (.invalidManifest p .notJson)
    | some v => if v.isObject then .ok v else .error (.invalidManifest p .notObject)

/-- Write a manifest. -/
def write (t : Tree) (p : Path) (m : Json) : Option Tree := t.write p (.text m.fileText)

/-- The entries of `dependencies`. -/
def dependencies (m : Json) : Fields Json := ((m.member? "dependencies").bind Json.fields?).getD []

/-- The dependencies that belong to the framework and have a text as version, in order. -/
def owned (m : Json) (f : Framework) : List (String × String) :=
  (dependencies m).filterMap fun (name, v) =>
    if f.owns name then v.str?.map fun s => (name, s) else none

/-- The version that the framework is pinned to, if it is a plain version. -/
def pinned (m : Json) (f : Framework) : Option Version := do
  let deps ← m.member? "dependencies"
  let raw ← (← deps.member? f.package).str?
  Version.read? raw

/-- Whether a dependency belongs to the framework and is pinned to a version. -/
def isPin (f : Framework) (v : Version) (entry : String × Json) : Bool :=
  f.owns entry.1 && entry.2.str? = some v.text

/-- The dependencies of the framework that are pinned to `v`. -/
def pins (m : Json) (f : Framework) (v : Version) : List String :=
  ((dependencies m).filter (isPin f v)).map (·.1)

/-- An entry of `dependencies`, pinned to `new` if it is a dependency of the framework that is pinned to
    `old`. -/
def repin (f : Framework) (old new : Version) (entry : String × Json) : String × Json :=
  if isPin f old entry then (entry.1, .str new.text) else entry

/-- Of the members of a manifest only `dependencies` is changed, and only if it is an object. -/
def bumpMember (f : Framework) (old new : Version) : String × Json → String × Json
  | (k, v) =>
    match k, v with
    | "dependencies", .obj deps => (k, .obj (deps.map (repin f old new)))
    | _, _ => (k, v)

/-- Pin the dependencies of the framework that are pinned to `old` to `new` instead. -/
def bump (m : Json) (f : Framework) (old new : Version) : Json :=
  match m with
  | .obj fields => .obj (fields.map (bumpMember f old new))
  | _ => m

end Manifest

end Uplift
