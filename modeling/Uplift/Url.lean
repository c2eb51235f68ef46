import Uplift.Text.Split

set_option autoImplicit false

/-! # Addresses of requests

An address names a scheme and a host; what follows the host, up to a `#`, is what the host is asked
for. Characters that would have to be escaped make an address unusable, except for a few that are let
through, and except for those beyond ASCII. -/

namespace Uplift

/-- An address. -/
structure Url where
  scheme : String
  host : String
  /-- What the host is asked for: a path and maybe a query. -/
  target : String
  deriving DecidableEq, Repr

namespace Url

/-- The characters of paths. -/
def isPathChar (c : Char) : Bool :=
  let n := c.toNat
  n == 0x21 || n == 0x22 || (0x24 ≤ n && n ≤ 0x3B) || n == 0x3D || (0x40 ≤ n && n ≤ 0x5F)
    || (0x61 ≤ n && n ≤ 0x7E) || 0x7F ≤ n

/-- The characters of queries. -/
def isQueryChar (c : Char) : Bool :=
  let n := c.toNat
  n == 0x21 || (0x24 ≤ n && n ≤ 0x3B) || n == 0x3D || (0x3F ≤ n && n ≤ 0x7E) || 0x7F ≤ n

/-- Whether a host can be asked for this. -/
def isTarget (cs : List Char) : Bool :=
  match Text.splitFirst '?' cs with
  | some (path, query) => path.all isPathChar && query.all isQueryChar
  | none => cs.all isPathChar

/-- Whether a character ends a host. -/
def endsHost (c : Char) : Bool := c == '/' || c == '?' || c == '#'

/-- Read an address. A target that starts with no slash is one of the root. -/
def read? (s : String) : Option Url := do
  let (scheme, rest) ← Text.splitFirst ':' s.toList
  let rest ← Text.dropPrefix? ['/', '/'] rest
  let host := rest.takeWhile (!endsHost ·)
  let target := (rest.dropWhile (!endsHost ·)).takeWhile (· != '#')
  if host.isEmpty || !isTarget target then none
  else some {
    scheme := String.ofList scheme
    host := String.ofList host
    target := String.ofList (if target.head? == some '/' then target else '/' :: target) }

end Url

end Uplift
