import Uplift.Fields
import Uplift.Path

set_option autoImplicit false

/-! # File trees

The files that a run works on are a value: a tree of directories with files as leaves. A *place* in
it is a list of names from the root. A path is resolved to a place step by step, and every step that
is taken from a place needs a directory there, so `a/b/../c` has a place only if `a/b` is a
directory, and `f/` and `f/.` have none if `f` is a file. Relative paths have no place. -/

namespace Uplift

/-- What is in a file: text, or bytes that are no text. -/
inductive Content where
  | text (s : String)
  | raw (bytes : List UInt8)
  deriving DecidableEq, Repr

/-- The content of these bytes. -/
def Content.ofBytes (bytes : List UInt8) : Content :=
  match String.fromUTF8? ⟨bytes.toArray⟩ with
  | some s => .text s
  | none => .raw bytes

/-- A file or a directory with its entries. -/
inductive Tree where
  | file (content : Content)
  | dir (entries : List (String × Tree))
  deriving Inhabited, Repr

namespace Tree

/-! ## Places -/

/-- What is at a place. -/
def get? : Tree → List String → Option Tree
  | t, [] => some t
  | .dir entries, s :: rest => (Fields.get? entries s).bind (get? · rest)
  | .file _, _ :: _ => none

/-- Put something at a place. Where a directory on the way is missing, nothing changes. -/
def put : Tree → List String → Tree → Tree
  | _, [], new => new
  | .dir entries, s :: rest, new =>
    match Fields.get? entries s with
    | some t => .dir (Fields.put entries s (put t rest new))
    | none => if rest = [] then .dir (Fields.put entries s new) else .dir entries
  | .file content, _ :: _, _ => .file content

/-- Remove what is at a place. -/
def erase : Tree → List String → Tree
  | t, [] => t
  | .dir entries, s :: rest =>
    match rest, Fields.get? entries s with
    | [], _ => .dir (Fields.erase entries s)
    | _ :: _, some t => .dir (Fields.put entries s (erase t rest))
    | _ :: _, none => .dir entries
  | .file content, _ :: _ => .file content

/-- Whether there is a directory at a place. -/
def hasDir (t : Tree) (place : List String) : Bool :=
  match t.get? place with
  | some (.dir _) => true
  | _ => false

/-- The content of the file at a place. -/
def content? (t : Tree) (place : List String) : Option Content :=
  match t.get? place with
  | some (.file c) => some c
  | _ => none

/-! ## Paths -/

/-- Follow the pieces of a path from a place, which is given backwards. -/
def follow (t : Tree) : List String → List (List Char) → Option (List String)
  | back, [] => some back.reverse
  | back, piece :: rest =>
    if !t.hasDir back.reverse then none
    else if piece = [] ∨ piece = ['.'] then follow t back rest
    else if piece = ['.', '.'] then follow t back.tail rest
    else follow t (String.ofList piece :: back) rest

/-- The place of an absolute path. What is above it exists; at the place itself there may be
    nothing. -/
def place? (t : Tree) (p : Path) : Option (List String) :=
  match p.text.toList with
  | '/' :: rest => t.follow [] (Text.splitAt '/' rest)
  | _ => none

/-- What is at a path. -/
def lookup (t : Tree) (p : Path) : Option Tree := (t.place? p).bind t.get?

/-- Whether there is something at a path. -/
def has (t : Tree) (p : Path) : Bool := (t.lookup p).isSome

/-- Whether there is a file at a path. -/
def isFile (t : Tree) (p : Path) : Bool :=
  match t.lookup p with
  | some (.file _) => true
  | _ => false

/-- Whether there is a directory at a path. -/
def isDir (t : Tree) (p : Path) : Bool :=
  match t.lookup p with
  | some (.dir _) => true
  | _ => false

/-- The text of the file at a path. -/
def readText (t : Tree) (p : Path) : Option String :=
  match t.lookup p with
  | some (.file (.text s)) => some s
  | _ => none

/-- Write a file. The directory has to be there, and no directory may be in its place. -/
def write (t : Tree) (p : Path) (c : Content) : Option Tree :=
  match t.place? p with
  | none => none
  | some place => if t.hasDir place then none else some (t.put place (.file c))

/-- Make the directories that are missing on the way to a place. -/
def makeDirs (t : Tree) : List String → List String → Option Tree
  | back, [] => if t.hasDir back.reverse then some t else none
  | back, s :: rest =>
    let place := (s :: back).reverse
    match t.get? place with
    | some (.dir _) => makeDirs t (s :: back) rest
    | some (.file _) => none
    | none => makeDirs (t.put place (.dir [])) (s :: back) rest

/-- The names of an absolute path without `..`. -/
def names? (p : Path) : Option (List String) :=
  match p.components with
  | .root :: steps => steps.mapM fun
    | .name s => some s
    | _ => none
  | _ => none

/-- Make a directory and all directories above it. -/
def makeDir (t : Tree) (p : Path) : Option Tree := (names? p).bind (t.makeDirs [])

/-- Write a file after making the directories above it. -/
def writeDeep (t : Tree) (p : Path) (c : Content) : Option Tree := do
  let t ← match p.parent? with
    | some q => if q.text.isEmpty then some t else t.makeDir q
    | none => some t
  t.write p c

/-- Remove a file, or a directory with all that is in it. -/
def remove (t : Tree) (p : Path) : Tree :=
  match t.place? p with
  | some place => t.erase place
  | none => t

/-! ## Listing -/

mutual

/-- The places and contents of all files. -/
def files : Tree → List (List String × Content)
  | .file c => [([], c)]
  | .dir entries => filesIn entries

/-- The files of a list of entries. -/
def filesIn : List (String × Tree) → List (List String × Content)
  | [] => []
  | (s, t) :: rest => (files t).map (fun (place, c) => (s :: place, c)) ++ filesIn rest

end

end Tree

end Uplift
