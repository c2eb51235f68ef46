import Uplift.Text.Split

set_option autoImplicit false

/-! # Paths

A path is kept as the text it was given as, since that text shows in reports and messages. It is
read as a list of components: a leading `/` is the root, empty pieces and inner `.` do not count,
and a leading `.` counts only at the start of a relative path. Paths are compared by their
components, so `a/x` comes before `a-b/x`. -/

namespace Uplift

open Text

/-- A path, absolute or relative. -/
structure Path where
  text : String
  deriving DecidableEq, Repr, Inhabited

instance : ToString Path := ⟨Path.text⟩

namespace Path

/-- One step of a path. -/
inductive Component where
  | root
  | here
  | up
  | name (s : String)
  deriving DecidableEq, Repr

/-- Steps of different kinds in the order root, here, up, name; names by their characters. -/
def Component.cmp : Component → Component → Ordering
  | .name s, .name t => compare s t
  | s, t => compare (rank s) (rank t)
where
  rank : Component → Nat
    | .root => 0
    | .here => 1
    | .up => 2
    | .name _ => 3

/-- The step that a piece between slashes stands for; empty pieces and `.` stand for none. -/
def innerComponent (piece : List Char) : Option Component :=
  if piece = [] ∨ piece = ['.'] then none
  else if piece = ['.', '.'] then some .up
  else some (.name (String.ofList piece))

/-- Whether the path starts at the root. -/
def isAbsolute (p : Path) : Bool := p.text.toList.head? == some '/'

/-- The steps of a path. -/
def components (p : Path) : List Component :=
  let pieces := Text.splitAt '/' p.text.toList
  let inner := pieces.filterMap innerComponent
  if p.isAbsolute then .root :: inner
  else if pieces.head? = some ['.'] then .here :: inner
  else inner

/-- Order by components. -/
def cmp (p q : Path) : Ordering := List.compareLex Component.cmp p.components q.components

/-- Paths with the same components, such as `a//b` and `a/./b`. -/
def same (p q : Path) : Bool := p.components == q.components

/-- The path `q` seen from `p`. An absolute `q` stands for itself. -/
def join (p q : Path) : Path :=
  if q.isAbsolute || p.text.isEmpty then q
  else if p.text.toList.getLast? == some '/' then ⟨p.text ++ q.text⟩
  else ⟨p.text ++ "/" ++ q.text⟩

/-- A directory that is given as an absolute path, or as one that is seen from `p`. -/
def resolve (p dir : Path) : Path := if dir.isAbsolute then dir else p.join dir

/-- A name below a path. -/
def child (p : Path) (name : String) : Path := p.join ⟨name⟩

/-- The last component, when it is a name. -/
def fileName? (p : Path) : Option String :=
  match p.components.getLast? with
  | some (.name s) => some s
  | _ => none

/-- The text after the last dot of a file name, unless that dot starts the name. -/
def extensionOf? (name : String) : Option String :=
  match splitLast '.' name.toList with
  | some (_ :: _, ext) => some (String.ofList ext)
  | _ => none

/-- The extension of the file name. -/
def extension? (p : Path) : Option String := p.fileName?.bind extensionOf?

/-- Whether the file name has one of these extensions. -/
def hasExtension (p : Path) (extensions : List String) : Bool :=
  match p.extension? with
  | some ext => extensions.contains ext
  | none => false

/-- The components of `p` below `base`, if it lies there. -/
def below? (p base : Path) : Option (List Component) :=
  base.components.isPrefixOf? p.components

/-! ## Pieces -/

/-- Whether a piece between slashes stands for no step. -/
def isIdle (piece : List Char) : Bool := piece = [] ∨ piece = ['.']

/-- Drop the pieces at the end that stand for no step. -/
def dropIdle (pieces : List (List Char)) : List (List Char) :=
  (pieces.reverse.dropWhile isIdle).reverse

/-- What is left of pieces after a number of steps. -/
def dropSteps : Nat → List (List Char) → List (List Char)
  | 0, pieces => pieces
  | _ + 1, [] => []
  | n + 1, piece :: rest => if isIdle piece then dropSteps (n + 1) rest else dropSteps n rest

/-- The pieces of an absolute path below a directory, if it lies there. -/
def piecesBelow? (p base : Path) : Option (List (List Char)) :=
  if p.isAbsolute && (p.below? base).isSome then
    let pieces := dropSteps (base.components.length - 1) (Text.splitAt '/' p.text.toList).tail
    some (dropIdle (pieces.dropWhile isIdle))
  else none

/-! ## Parents -/

/-- The path without its last step; none for the root and the empty path. -/
def parent? (p : Path) : Option Path :=
  let pieces := Text.splitAt '/' p.text.toList
  let cut (kept : List (List Char)) : Option (List (List Char)) :=
    match dropIdle kept with
    | [] => none
    | busy => some (dropIdle busy.dropLast)
  let write (kept : List (List Char)) : String := String.ofList (List.intercalate ['/'] kept)
  if p.isAbsolute then (cut pieces.tail).map fun kept => ⟨"/" ++ write kept⟩
  else match pieces with
    | ['.'] :: rest =>
      match cut rest with
      | none => some ⟨""⟩
      | some kept => some ⟨write (['.'] :: kept)⟩
    | _ => (cut pieces).map fun kept => ⟨write kept⟩

/-- A path and its parents, nearest first. The number of characters bounds their number. -/
def ancestors (p : Path) : List Path := go p.text.length p
where
  go : Nat → Path → List Path
    | 0, p => [p]
    | n + 1, p => p :: match p.parent? with
      | none => []
      | some q => go n q

end Path

end Uplift
