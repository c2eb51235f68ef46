import Uplift.Error
import Uplift.Glob
import Uplift.Sort
import Uplift.Tree

set_option autoImplicit false

/-! # Scanning a project

The candidate files of a project lie below a few roots of its directory. Whatever matches an exclude
pattern is left out together with all that is below it. The files are listed with absolute paths in
path order, each once. -/

namespace Uplift

/-- Which paths of a project are scanned: files or directories to start from, and patterns of what is
    left out, both relative to the project. -/
structure Policy where
  roots : List String
  exclude : List String
  deriving DecidableEq, Repr

namespace Policy

/-- Directories that never hold sources. -/
def excludedDirs : List String := ["node_modules", "dist", "build", ".git", ".cache", "coverage"]

/-- A policy without the excluded directories. -/
def ofRoots (roots : List String) : Policy where
  roots
  exclude := excludedDirs.flatMap fun d => ["**/" ++ d, "**/" ++ d ++ "/**"]

/-- What is scanned of an application. -/
def application : Policy :=
  ofRoots ["src", "config", "types", "database", "package.json", "tsconfig.json"]

/-- What is scanned of a plugin. -/
def plugin : Policy := ofRoots ["admin", "server", "src", "package.json", "tsconfig.json"]

end Policy

namespace Scan

/-- Whether a place, as pieces of its path below the project, is left out. A place that is not below
    the project is not. -/
def isExcluded (globs : List Glob) : Option (List (List Char)) → Bool
  | some pieces => globs.any (·.isMatch (utf8 (List.intercalate ['/'] pieces)))
  | none => false

mutual

/-- The files at and below a path. -/
def walk (globs : List Glob) : Path → Option (List (List Char)) → Tree → List Path
  | path, pieces, .file _ => if isExcluded globs pieces then [] else [path]
  | path, pieces, .dir entries =>
    if isExcluded globs pieces then [] else walkEntries globs path pieces entries

/-- The files of a list of entries. -/
def walkEntries (globs : List Glob) : Path → Option (List (List Char)) → List (String × Tree) →
    List Path
  | _, _, [] => []
  | path, pieces, (name, t) :: rest =>
    walk globs (path.child name) (pieces.map (· ++ [name.toList])) t ++
      walkEntries globs path pieces rest

end

/-- The files below a root. -/
def ofRoot (t : Tree) (globs : List Glob) (cwd : Path) (root : String) : List Path :=
  let start := cwd.child root
  match t.lookup start with
  | none => []
  | some node => walk globs start (start.piecesBelow? cwd) node

/-- Paths in path order, each once. -/
def inOrder (paths : List Path) : List Path :=
  dropRepeats Path.same (sortBy (fun p q => p.cmp q = .lt) paths)

/-- The patterns of a policy. -/
def globs (cwd : Path) (exclude : List String) : Except Error (List Glob) :=
  exclude.mapM fun pattern =>
    match Glob.read? pattern with
    | some g => .ok g
    | none => .error (.projectScan cwd (.badPattern pattern))

/-- The candidate files of a project. -/
def files (t : Tree) (cwd : Path) (policy : Policy) : Except Error (List Path) := do
  let gs ← globs cwd policy.exclude
  return inOrder (policy.roots.flatMap (ofRoot t gs cwd))

end Scan

end Uplift
