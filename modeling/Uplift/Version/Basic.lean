import Uplift.Sort
import Uplift.Text.Numeral
import Uplift.Text.Split

set_option autoImplicit false

/-! # Versions

A version is three 64-bit numbers, a list of prerelease parts and a list of build parts. The
well-formedness of the parts is carried by their types, so every value of type `Version` has a
text, and that text determines it.

Versions are ordered in two ways. *Precedence* ignores the build parts and decides which versions
lie in a range. The *total order* refines it by the build parts and decides in which order
versions are listed. -/

namespace Uplift

/-- Characters that may stand in a prerelease or build part. -/
def isPartChar (c : Char) : Bool := c.isAlphanum || c == '-'

/-- A prerelease or build part has at least one character, and only allowed ones. -/
def isPart (cs : List Char) : Bool := !cs.isEmpty && cs.all isPartChar

/-- A prerelease word is a part that is not a numeral. -/
def isWord (cs : List Char) : Bool := isPart cs && !cs.all Char.isDigit

/-- A prerelease part with at least one character that is no digit. -/
structure PreWord where
  text : String
  isWord_text : isWord text.toList = true
  deriving DecidableEq, Repr

/-- One dot-separated part of a prerelease tag. -/
inductive PrePart where
  | number (n : Nat)
  | word (w : PreWord)
  deriving DecidableEq, Repr

/-- One dot-separated part of the build metadata; leading zeros count here. -/
structure BuildPart where
  text : String
  isPart_text : isPart text.toList = true
  deriving DecidableEq, Repr

/-- A version `major.minor.patch[-pre][+build]`. -/
structure Version where
  major : UInt64
  minor : UInt64
  patch : UInt64
  pre : List PrePart
  build : List BuildPart
  deriving DecidableEq, Repr

instance : Inhabited Version := ⟨⟨0, 0, 0, [], []⟩⟩

/-- A released version without tags. -/
def Version.release (major minor patch : UInt64) : Version := ⟨major, minor, patch, [], []⟩

/-! ## Order -/

/-- Numbers come before words; numbers compare by value, words by their characters. -/
def PrePart.cmp : PrePart → PrePart → Ordering
  | .number m, .number n => compare m n
  | .number _, .word _ => .lt
  | .word _, .number _ => .gt
  | .word v, .word w => compare v.text w.text

/-- A prerelease comes before the release; otherwise the first differing part decides, and a
    longer tag follows its beginning. -/
def cmpPre : List PrePart → List PrePart → Ordering
  | [], [] => .eq
  | [], _ :: _ => .gt
  | _ :: _, [] => .lt
  | ps, qs => List.compareLex PrePart.cmp ps qs

/-- Numerals come before other parts. Numerals compare by value, then by length, so `0` is
    followed by `00` and that by `1`; other parts compare by their characters. -/
def BuildPart.cmp (p q : BuildPart) : Ordering :=
  let ps := p.text.toList
  let qs := q.text.toList
  match ps.all Char.isDigit, qs.all Char.isDigit with
  | true, true =>
    (compare (Text.ofDigits ps) (Text.ofDigits qs)).then (compare ps.length qs.length)
  | true, false => .lt
  | false, true => .gt
  | false, false => compare p.text q.text

namespace Version

/-- Precedence: numbers first, then the prerelease tag; build metadata does not count. -/
def precedence (v w : Version) : Ordering :=
  (compare v.major w.major).then <|
  (compare v.minor w.minor).then <|
  (compare v.patch w.patch).then <|
  cmpPre v.pre w.pre

/-- The total order: precedence, then build metadata. -/
def order (v w : Version) : Ordering :=
  (precedence v w).then (List.compareLex BuildPart.cmp v.build w.build)

/-- Whether `v` has higher precedence than `w`. -/
def above (v w : Version) : Bool := precedence v w == .gt

/-- A version without a prerelease tag. -/
def isStable (v : Version) : Bool := v.pre.isEmpty

/-- Stable sort by the total order of a key. -/
def sortOn {α : Type} (key : α → Version) (xs : List α) : List α :=
  sortBy (fun x y => order (key x) (key y) == .lt) xs

/-- The greatest version by the total order, the last one among equals. -/
def greatest? : List Version → Option Version
  | [] => none
  | v :: vs =>
    match greatest? vs with
    | none => some v
    | some w => if order v w == .gt then some v else some w

/-! ## Neighbouring versions -/

/-- The least version, by precedence, with the numbers of `v`: the prerelease `-0`. -/
def floor (v : Version) : Version := ⟨v.major, v.minor, v.patch, [.number 0], []⟩

/-- The release that starts the next major line. A prerelease of `M.0.0` leads to `M.0.0`. -/
def nextMajor (v : Version) : Version :=
  if !v.isStable && v.minor == 0 && v.patch == 0 then release v.major 0 0
  else release (v.major + 1) 0 0

/-- The release that starts the next minor line. A prerelease of `M.m.0` leads to `M.m.0`. -/
def nextMinor (v : Version) : Version :=
  if !v.isStable && v.patch == 0 then release v.major v.minor 0
  else release v.major (v.minor + 1) 0

end Version

end Uplift
