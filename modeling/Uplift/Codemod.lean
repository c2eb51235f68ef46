import Uplift.Path
import Uplift.Text.Title
import Uplift.Version.Text

set_option autoImplicit false

/-! # Codemods

A codemod is a file `<name>.<kind>.<ext>` in the directory of the version that it leads to. Its kind
says how it is run: code codemods by an external engine, document codemods in process. The uid joins
version, name and kind. -/

namespace Uplift

open Text

/-- How a codemod is run. -/
inductive Kind where
  | code
  | document
  deriving DecidableEq, Repr

namespace Kind

/-- The name of a kind. -/
def text : Kind → String
  | .code => "code"
  | .document => "document"

/-- The kind with this name. -/
def read? : String → Option Kind
  | "code" => some .code
  | "document" => some .document
  | _ => none

/-- The wording for a text that is no kind. -/
def unknownMessage (s : String) : String := "unknown codemod kind: " ++ s

end Kind

/-- The three parts of a codemod file name. -/
structure FileName where
  name : String
  kind : Kind
  ext : String
  deriving DecidableEq, Repr

namespace FileName

/-- Split a file name at its last two dots. Name and extension are not empty. -/
def read? (file : String) : Option FileName := do
  let (front, ext) ← splitLast '.' file.toList
  let (name, kind) ← splitLast '.' front
  let kind ← Kind.read? (String.ofList kind)
  if name.isEmpty || ext.isEmpty then none
  else return ⟨String.ofList name, kind, String.ofList ext⟩

/-- The file name of three parts. -/
def text (f : FileName) : String := f.name ++ "." ++ f.kind.text ++ "." ++ f.ext

end FileName

/-- A codemod of a version. -/
structure Codemod where
  kind : Kind
  version : Version
  base : Path
  filename : String
  deriving DecidableEq, Repr

namespace Codemod

/-- The name part of the file name, or all of it when it has no kind. -/
def name (c : Codemod) : String :=
  match FileName.read? c.filename with
  | some f => f.name
  | none => c.filename

/-- The extension of the file. -/
def extension? (c : Codemod) : Option String := (Path.mk c.filename).extension?

/-- Where the codemod is. -/
def path (c : Codemod) : Path := c.base.child c.filename

/-- The identity of a codemod: version, name and kind. -/
def uid (c : Codemod) : String := c.version.text ++ "-" ++ c.name ++ "-" ++ c.kind.text

/-- The name as it is shown. -/
def title (c : Codemod) : String := titleCase c.name

end Codemod

/-- The codemods of one version. -/
structure Collection where
  version : Version
  codemods : List Codemod
  deriving DecidableEq, Repr

namespace Collection

/-- Put a collection among collections with versions ascending, in the place of one with its version if
    there is one. -/
def insert (c : Collection) : List Collection → List Collection
  | [] => [c]
  | d :: rest =>
    match c.version.order d.version with
    | .lt => c :: d :: rest
    | .eq => c :: rest
    | .gt => d :: insert c rest

/-- All codemods of a list of collections, one collection after the other. -/
def flatten (collections : List Collection) : List Codemod := collections.flatMap (·.codemods)

/-- All codemods with the versions of their collections ascending; collections of equal versions,
    and codemods of one collection, keep their order. -/
def flattenAscending (collections : List Collection) : List Codemod :=
  flatten (Version.sortOn Collection.version collections)

end Collection

end Uplift
