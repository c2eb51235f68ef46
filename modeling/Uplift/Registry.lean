import Uplift.Fault
import Uplift.Json.Record
import Uplift.Text.Numeral
import Uplift.Version.Text

set_option autoImplicit false

/-! # Registries

A registry answers a request for a package with a document whose member `versions` has the published
versions as keys. Keys that are no versions are left out. The address of the registry is the one that
is given, else the one that the package manager is configured with, else the public one. -/

namespace Uplift

/-- The answer to a request. -/
structure Response where
  status : Nat := 200
  body : String := ""
  deriving DecidableEq, Repr

namespace Response

/-- Whether a response stands for a failure: a failing status, or one that refers elsewhere. -/
def isFailure (r : Response) : Bool :=
  400 ≤ r.status || (300 ≤ r.status && r.status ≤ 399 && r.status ≠ 304)

/-- What a response holds; responses of some statuses hold nothing. -/
def content (r : Response) : String := if r.status = 204 ∨ r.status = 304 then "" else r.body

end Response

/-- How addresses are requested. -/
abbrev Fetcher := String → Except Fault Response

/-- A registry, by an address without slashes at its end. -/
structure Registry where
  base : String
  deriving DecidableEq, Repr

namespace Registry

/-- The registry at an address. -/
def atUrl (url : String) : Registry :=
  ⟨String.ofList (url.toList.reverse.dropWhile (· == '/')).reverse⟩

/-- The public registry. -/
def publicUrl : String := "https://registry.npmjs.org"

/-- Whether an address is given; a blank one is not. -/
def isGiven : Option String → Bool
  | some url => Text.trimmed url ≠ ""
  | none => false

/-- The address of a registry, out of the one that is given and the one that the package manager is
    configured with. -/
def resolveUrl (given : Option String) (configured : Except Fault (Option String)) : String :=
  if isGiven given then given.getD ""
  else match configured with
    | .ok (some url) => url
    | _ => publicUrl

/-- The address of a package: slashes in its name are escaped. -/
def packageUrl (r : Registry) (package : String) : String :=
  r.base ++ "/" ++ String.ofList (package.toList.flatMap fun c =>
    if c = '/' then ['%', '2', 'f'] else [c])

/-- The versions among keys, in ascending order. -/
def versionsOf (keys : List String) : List Version :=
  Version.sortOn id (keys.filterMap Version.read?)

/-- The keys of an object. The values count for nothing, but they have to be values. -/
def keys : Json.Decoder (List String) := fun cs =>
  match Json.skipGap cs with
  | '{' :: rest => do
    let (members, rest) ← Json.need (Json.object (Json.value (Json.maxDepth - 2)) rest)
    return (Fields.keys (Fields.ofList members), rest)
  | _ => .error .malformed

/-- The keys of the published versions of a package. -/
def publishedKeys : Json.Decoder (List String) :=
  Json.record [Json.slot "versions" id (fun _ keys => some keys) keys] none
    fun found => some (found.getD [])

/-- Ask for the published versions of a package. -/
def versions (r : Registry) (fetch : Fetcher) (package : String) : Except Fault (List Version) :=
  let url := r.packageUrl package
  match fetch url with
  | .error fault => .error (fault.within ("GET " ++ url))
  | .ok response =>
    if response.isFailure then
      .error ⟨"GET " ++ url, ["http status: " ++ Text.decimal response.status]⟩
    else match Json.decode publishedKeys response.content with
      | .ok keys => .ok (versionsOf keys)
      | .error _ => .error ⟨"parse package metadata from " ++ url, ["malformed document"]⟩

end Registry

end Uplift
