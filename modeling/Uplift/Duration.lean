import Uplift.Double.Text

set_option autoImplicit false

/-! # Durations

A duration is a whole number of nanoseconds below `2 ^ 64` seconds. Seconds as doubles come from
outside; one that is out of range has no duration, and neither has a sum that overflows. -/

namespace Uplift

/-- Nanoseconds in a second. -/
def nanosPerSecond : Nat := 1000000000

/-- The first number of nanoseconds that is no duration. -/
def durationLimit : Nat := UInt64.size * nanosPerSecond

/-- A span of time. -/
structure Duration where
  nanos : Nat
  bounded : nanos < durationLimit
  deriving DecidableEq, Repr

namespace Duration

/-- No time at all. -/
def zero : Duration := ⟨0, by decide⟩

instance : Inhabited Duration := ⟨zero⟩

/-- The duration of a number of nanoseconds, if it is in range. -/
def ofNanos? (n : Nat) : Option Duration := if h : n < durationLimit then some ⟨n, h⟩ else none

/-- The sum, if it is in range. -/
def add? (d e : Duration) : Option Duration := ofNanos? (d.nanos + e.nanos)

/-- The duration nearest to a number of seconds, a half to the even neighbour. Negative values and
    values of `2 ^ 64` and more have none. -/
def ofSeconds? (s : Double) : Option Duration :=
  if s.isNegative then none
  else ofNanos? (Double.roundDiv (s.units * nanosPerSecond) Double.one)

/-- The whole seconds as a double plus the double of the nanoseconds divided by `1e9`. -/
def seconds (d : Duration) : Double :=
  let whole := Double.ofNat? (d.nanos / nanosPerSecond)
  let rest := do
    let n ← Double.ofNat? (d.nanos % nanosPerSecond)
    let b ← Double.ofNat? nanosPerSecond
    n.div? b
  match whole, rest with
  | some a, some b => (a.addAbs? b).getD Double.zero
  | _, _ => Double.zero

/-- Seconds with three decimals and the unit. -/
def text (d : Duration) : String := String.ofList (d.seconds.fixed 3) ++ "s"

end Duration

end Uplift
