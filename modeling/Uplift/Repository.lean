import Uplift.Codemod
import Uplift.Range
import Uplift.Sort
import Uplift.Tree

set_option autoImplicit false

/-! # The codemod repository

A repository is a directory whose immediate subdirectories are named by versions and hold the
codemods that lead to them. What it holds is settled by the last refresh: one collection for each
version, versions ascending, codemods by file name. -/

namespace Uplift

/-- A codemod repository as of its last refresh. -/
structure Repository where
  root : Path
  collections : List Collection := []
  deriving Repr

namespace Repository

/-! ## Loading -/

/-- The codemod that an entry of a version directory is: a file with a codemod's name. -/
def codemodOf? (v : Version) (dir : Path) : String × Tree → Option Codemod
  | (name, .file _) => (FileName.read? name).map fun f => ⟨f.kind, v, dir, name⟩
  | (_, .dir _) => none

/-- The codemods in a version directory, by file name. -/
def codemodsIn (v : Version) (dir : Path) (entries : List (String × Tree)) : List Codemod :=
  sortBy (fun a b => compare a.filename b.filename = .lt) (entries.filterMap (codemodOf? v dir))

/-- The pattern of the files in a directory that have two dots in their names. -/
def filePattern (dir : Path) : String :=
  String.ofList (Wildcard.escape dir.text.toList) ++ "/*.*.*"

/-- The codemods in a version directory, as they are found by the pattern. -/
def codemodsAt (v : Version) (dir : Path) (entries : List (String × Tree)) :
    Except Error (List Codemod) :=
  match Wildcard.read (filePattern dir) with
  | .error fault => .error (.invalidRepository dir (.badPattern (filePattern dir) fault))
  | .ok pattern => .ok (codemodsIn v dir (entries.filter fun e => pattern.lists e.1))

/-- A directory that is named by a version, with its entries. -/
structure Shelf where
  version : Version
  dir : Path
  entries : List (String × Tree)

/-- The version directory that an entry of the repository is. -/
def shelfOf? (root : Path) : String × Tree → Option Shelf
  | (name, .dir entries) => (Version.read? name).map fun v => ⟨v, root.child name, entries⟩
  | (_, .file _) => none

/-- Forget all codemods. -/
def clear (r : Repository) : Repository := { r with collections := [] }

/-- Take in the codemods of version directories, one directory after the other. The first that cannot be
    listed ends it, and what was taken in before stays. -/
def fill (r : Repository) : List Shelf → Except Error Unit × Repository
  | [] => (.ok (), r)
  | s :: rest =>
    match codemodsAt s.version s.dir s.entries with
    | .error e => (.error e, r)
    | .ok codemods =>
      let collections := Collection.insert ⟨s.version, codemods⟩ r.collections
      fill { r with collections } rest

/-- Read the repository again: the outcome and the repository after it. All codemods are forgotten
    before the disk is looked at. -/
def refresh (t : Tree) (r : Repository) : Except Error Unit × Repository :=
  let r := r.clear
  match t.lookup r.root with
  | some (.dir entries) =>
    match entries.filterMap (shelfOf? r.root) with
    | [] => (.error (.invalidRepository r.root .noVersions), r)
    | found => r.fill (Version.sortOn Shelf.version found)
  | _ => (.error (.invalidRepository r.root .noDirectory), r)

/-- The repository at a path. -/
def load (t : Tree) (root : Path) : Except Error Repository :=
  match refresh t { root } with
  | (.ok (), r) => .ok r
  | (.error e, _) => .error e

/-! ## Queries -/

/-- The versions with a directory, ascending. -/
def versions (r : Repository) : List Version := r.collections.map (·.version)

/-- All codemods in order. -/
def codemods (r : Repository) : List Codemod := Collection.flatten r.collections

/-- The codemods of a version. -/
def ofVersion (r : Repository) (v : Version) : List Codemod :=
  match r.collections.find? (·.version = v) with
  | some c => c.codemods
  | none => []

/-- The codemod with a uid. -/
def withUid? (r : Repository) (uid : String) : Option Codemod := r.codemods.find? (·.uid = uid)

/-- The collections of the versions in a range. -/
def inRange (r : Repository) (range : Range) : List Collection :=
  r.collections.filter fun c => range.contains c.version

/-- The codemods with one of these uids, each as a collection of its own, in order. -/
def withUids (r : Repository) (uids : List String) : List Collection :=
  (r.codemods.filter fun c => uids.contains c.uid).map fun c => ⟨c.version, [c]⟩

/-- What to look for: codemods with some uids, or the collections of a range. -/
structure Query where
  range : Option Range := none
  uids : Option (List String) := none
  deriving Repr

/-- The collections that a query asks for. Where uids are given the range does not count, and without
    either all collections are meant. -/
def find (r : Repository) (q : Query) : List Collection :=
  match q.uids, q.range with
  | some uids, _ => r.withUids uids
  | none, some range => r.inRange range
  | none, none => r.collections

/-- The number of codemods of a version. -/
def count (r : Repository) (v : Version) : Nat := (r.ofVersion v).length

/-- The number of codemods of the versions in a range. -/
def countIn (r : Repository) (range : Range) : Nat :=
  (r.inRange range).foldr (fun c n => c.codemods.length + n) 0

end Repository

end Uplift
