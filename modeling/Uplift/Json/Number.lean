import Uplift.Json.Basic
import Uplift.Text.Numeral

set_option autoImplicit false

/-! # JSON numbers

A number without fraction and exponent is an integer when it fits in 64 bits, signed or unsigned.
Every other number is a double, found with one 64-bit significand: digits are collected while they
fit, later whole digits only raise the exponent, later decimals are dropped, and the significand is
scaled by one power of ten. The result may be off by a unit in the last place; it is the value that
documents are compared and written with. -/

namespace Uplift.Json

open Text

/-- The parts of a number as written. -/
structure Lexeme where
  negative : Bool
  whole : List Char
  fraction : Option (List Char)
  exponent : Option (Bool × List Char)
  deriving DecidableEq, Repr

/-- The digits at the front and the rest. -/
def takeDigits (cs : List Char) : List Char × List Char := cs.span Char.isDigit

/-- The whole part: one zero, or digits that do not start with zero. -/
def lexWhole (cs : List Char) : Option (List Char × List Char) :=
  match takeDigits cs with
  | ([], _) => none
  | (['0'], rest) => some (['0'], rest)
  | ('0' :: _ :: _, _) => none
  | r => some r

/-- The decimals after a point; there is at least one. -/
def lexFraction : List Char → Option (Option (List Char) × List Char)
  | '.' :: rest =>
    match takeDigits rest with
    | ([], _) => none
    | (ds, rest) => some (some ds, rest)
  | cs => some (none, cs)

/-- The digits of an exponent; there is at least one. -/
def lexPower (up : Bool) (cs : List Char) : Option (Option (Bool × List Char) × List Char) :=
  match takeDigits cs with
  | ([], _) => none
  | (ds, rest) => some (some (up, ds), rest)

/-- The exponent after `e` or `E`, with an optional sign. -/
def lexExponent : List Char → Option (Option (Bool × List Char) × List Char)
  | c :: rest =>
    if c = 'e' ∨ c = 'E' then
      match rest with
      | '+' :: rest => lexPower true rest
      | '-' :: rest => lexPower false rest
      | rest => lexPower true rest
    else some (none, c :: rest)
  | [] => some (none, [])

/-- A number at the front of a text, and the rest. -/
def lexNumber (cs : List Char) : Option (Lexeme × List Char) := do
  let (negative, cs) := match cs with
    | '-' :: rest => (true, rest)
    | cs => (false, cs)
  let (whole, cs) ← lexWhole cs
  let (fraction, cs) ← lexFraction cs
  let (exponent, cs) ← lexExponent cs
  return (⟨negative, whole, fraction, exponent⟩, cs)

/-! ## Values -/

/-- The value of a digit. -/
def digitValue (c : Char) : Nat := c.toNat - '0'.toNat

/-- A significand that still takes digits, and the power of ten of the digits it had to leave. -/
structure Significand where
  value : Nat
  power : Int
  full : Bool
  deriving DecidableEq, Repr

/-- Take a whole digit. Once one does not fit in 64 bits, it and all later ones raise the power. -/
def Significand.addWhole (s : Significand) (c : Char) : Significand :=
  let value := s.value * 10 + digitValue c
  if s.full || UInt64.size ≤ value then { s with power := s.power + 1, full := true }
  else { s with value }

/-- Take decimals as long as they fit in 64 bits. -/
def Significand.addDecimals : Significand → List Char → Significand
  | s, [] => s
  | s, c :: cs =>
    let value := s.value * 10 + digitValue c
    if UInt64.size ≤ value then s
    else Significand.addDecimals { s with value, power := s.power - 1 } cs

/-- The powers of ten that are doubles. -/
def powerOfTen? (n : Nat) : Option Double :=
  if n ≤ 308 then Double.roundRatio false (Nat.pow 10 n) 1 else none

/-- Scale by a power of ten. A power below the table is taken in steps of `1e308`, which reach zero
    after a few of them; a power above it is out of range unless the value is zero. -/
def scale : Nat → Double → Int → Option Double
  | 0, d, _ => some d
  | steps + 1, d, power =>
    match powerOfTen? power.natAbs with
    | some p => if 0 ≤ power then d.mul? p else d.div? p
    | none =>
      if d.rank = 0 then some d
      else if 0 ≤ power then none
      else do
        let p ← powerOfTen? 308
        let d ← d.div? p
        scale steps d (power + 308)

/-- The double of a significand and a power of ten. -/
def floatOf (negative : Bool) (value : Nat) (power : Int) : Option Json := do
  let d ← Double.ofNat? value
  let d ← scale 4 d power
  return .float (if negative then d.neg else d)

/-- The integer of whole digits that fit in 64 bits. Negative zero, and what lies below
    `-2 ^ 63`, is a double. -/
def integerOf (negative : Bool) (value : Nat) : Option Json :=
  if !negative then some (.int value)
  else if value = 0 ∨ Nat.pow 2 63 < value then (Double.ofNat? value).map fun d => .float d.neg
  else some (.int (-(value : Int)))

/-- The value of a number. Exponents too long for 31 bits decide by their sign alone. -/
def Lexeme.value (n : Lexeme) : Option Json :=
  let s := n.whole.foldl Significand.addWhole ⟨0, 0, false⟩
  match n.fraction, n.exponent with
  | none, none => if s.full then floatOf n.negative s.value s.power else integerOf n.negative s.value
  | fraction, exponent =>
    let s := s.addDecimals (fraction.getD [])
    match exponent with
    | none => floatOf n.negative s.value s.power
    | some (up, ds) =>
      let e := ofDigits ds
      if Nat.pow 2 31 ≤ e then
        if s.value ≠ 0 ∧ up then none
        else some (.float { Double.zero with negative := n.negative })
      else floatOf n.negative s.value (if up then s.power + e else s.power - e)

end Uplift.Json
