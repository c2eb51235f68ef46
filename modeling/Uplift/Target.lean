import Uplift.Range

set_option autoImplicit false

/-! # Upgrade targets

A target is a release type (`major`, `minor`, `patch`, `latest`) or an exact version. Seen from the
current version it stands for a range of versions on the way. -/

namespace Uplift

/-- A release type. -/
inductive Release where
  | major
  | minor
  | patch
  | latest
  deriving DecidableEq, Repr

namespace Release

/-- The name of a release type. -/
def text : Release → String
  | .major => "major"
  | .minor => "minor"
  | .patch => "patch"
  | .latest => "latest"

/-- The release type with this name; letter case does not count. -/
def read? (s : String) : Option Release :=
  match String.ofList (s.toList.map Char.toLower) with
  | "major" => some .major
  | "minor" => some .minor
  | "patch" => some .patch
  | "latest" => some .latest
  | _ => none

/-- The wording for a text that is no release type; it shows the text in lower case. -/
def unknownMessage (s : String) : String :=
  "unknown release type: " ++ String.ofList (s.toList.map Char.toLower)

end Release

/-- What to upgrade to. -/
inductive Target where
  | release (r : Release)
  | exact (v : Version)
  deriving DecidableEq, Repr

namespace Target

/-- The text of a target. -/
def text : Target → String
  | .release r => r.text
  | .exact v => v.text

instance : ToString Target := ⟨text⟩

/-- Read a target: a release type, else a version. -/
def parse (s : String) : Except Error Target :=
  match Release.read? s with
  | some r => .ok (.release r)
  | none => (Version.parse s).map .exact

end Target

namespace Range

/-- The versions that a release type leads to from `current`. A major release starts at the first
    prerelease of the next major line, unless `current` is already in that line. -/
def ofRelease (current : Version) : Release → Range
  | .major =>
    let next := current.nextMajor
    let lower : Bound :=
      if next.floor.above current then ⟨next.floor, true⟩ else ⟨current, false⟩
    ⟨some lower, some ⟨next, true⟩⟩
  | .minor => ⟨some ⟨current, false⟩, some ⟨current.nextMajor.floor, false⟩⟩
  | .patch => ⟨some ⟨current, false⟩, some ⟨current.nextMinor.floor, false⟩⟩
  | .latest => after current

/-- The versions on the way from `current` to a target. An exact target has to move forward. -/
def ofTarget (current : Version) : Target → Except Error Range
  | .release r => .ok (ofRelease current r)
  | .exact v => if v.above current then .ok (between current v) else .error (.invalidTarget current v)

end Range

end Uplift
