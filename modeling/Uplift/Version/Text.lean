import Uplift.Version.Basic

set_option autoImplicit false

/-! # Version texts

The strict grammar `MAJOR.MINOR.PATCH[-PRE][+BUILD]` and its printer. A `+` can only start the
build metadata, and the first `-` before it can only start the prerelease tag, so reading cuts the
text at these two characters and then reads the pieces between the dots. -/

namespace Uplift

open Text

/-! ## Printing -/

/-- The characters of a prerelease part. -/
def PrePart.chars : PrePart → List Char
  | .number n => digits n
  | .word w => w.text.toList

/-- The characters of a prerelease tag or build metadata: the parts with dots between them. -/
def dotted (parts : List (List Char)) : List Char := List.intercalate ['.'] parts

namespace Version

/-- The three numbers, `major.minor.patch`. -/
def coreChars (v : Version) : List Char :=
  dotted [digits v.major.toNat, digits v.minor.toNat, digits v.patch.toNat]

/-- The prerelease tag without its hyphen. -/
def preChars (v : Version) : List Char := dotted (v.pre.map PrePart.chars)

/-- The build metadata without its plus sign. -/
def buildChars (v : Version) : List Char := dotted (v.build.map (·.text.toList))

/-- The characters of a version. -/
def chars (v : Version) : List Char :=
  v.coreChars
    ++ (if v.pre.isEmpty then [] else '-' :: v.preChars)
    ++ (if v.build.isEmpty then [] else '+' :: v.buildChars)

/-- The text of a version. -/
def text (v : Version) : String := String.ofList v.chars

instance : ToString Version := ⟨text⟩

end Version

/-! ## Reading -/

/-- A version number: a numeral without leading zeros, below `2 ^ 64`. -/
def versionNumber? (cs : List Char) : Option UInt64 :=
  if isCanonical cs then word64Of? cs else none

/-- A prerelease part: a numeral without leading zeros, or a word. -/
def PrePart.read? (cs : List Char) : Option PrePart :=
  if h : isWord (String.ofList cs).toList = true then some (.word ⟨String.ofList cs, h⟩)
  else if isCanonical cs then some (.number (ofDigits cs))
  else none

/-- A part of the build metadata. -/
def BuildPart.read? (cs : List Char) : Option BuildPart :=
  if h : isPart (String.ofList cs).toList = true then some ⟨String.ofList cs, h⟩ else none

namespace Version

/-- A prerelease tag: parts with dots between them. -/
def readPre? (cs : List Char) : Option (List PrePart) := (Text.splitAt '.' cs).mapM PrePart.read?

/-- Build metadata: parts with dots between them. -/
def readBuild? (cs : List Char) : Option (List BuildPart) :=
  (Text.splitAt '.' cs).mapM BuildPart.read?

/-- The text before the build metadata. -/
def readTagged? (cs : List Char) (build : List BuildPart) : Option Version :=
  let (front, pre?) := match splitFirst '-' cs with
    | some (front, pre) => (front, readPre? pre)
    | none => (cs, some [])
  match Text.splitAt '.' front with
  | [major, minor, patch] => do
    let major ← versionNumber? major
    let minor ← versionNumber? minor
    let patch ← versionNumber? patch
    let pre ← pre?
    return ⟨major, minor, patch, pre, build⟩
  | _ => none

/-- A version in the strict grammar. -/
def readChars? (cs : List Char) : Option Version :=
  match splitFirst '+' cs with
  | some (front, build) => (readBuild? build).bind (readTagged? front)
  | none => readTagged? cs []

/-- A version in the strict grammar. -/
def read? (s : String) : Option Version := readChars? s.toList

/-- Whether a text is a version as it stands. -/
def isLiteral (s : String) : Bool := (read? s).isSome

/-- A version in the lenient grammar: blanks around it and one leading `v` are dropped. -/
def readLenient? (s : String) : Option Version :=
  let cs := trim s.toList
  readChars? ((dropPrefix? ['v'] cs).getD cs)

end Version

end Uplift
