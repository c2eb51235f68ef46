import Uplift.Double.Basic
import Uplift.Text.Numeral

set_option autoImplicit false

/-! # Doubles in decimal

`shortest` finds the fewest decimal digits that still read back as the same double, and among those
the nearest. `fixed` writes a given number of decimals of the exact value. -/

namespace Uplift.Double

open Text

/-- A decimal `digits * 10 ^ exponent`. -/
structure Decimal where
  digits : Nat
  exponent : Int
  deriving DecidableEq, Repr

/-- The fraction `num / den` of an absolute value. -/
def ratio (d : Double) : Nat × Nat := (d.units, one)

/-- The exponent of the first digit of `num / den`, which is not zero. -/
def leadingExponent (num den : Nat) : Int :=
  if den ≤ num then (digits (num / den)).length - 1
  else
    let k := (digits (den / num)).length
    if den ≤ num * Nat.pow 10 (k - 1) then -((k : Int) - 1) else -(k : Int)

/-- Whether a decimal reads back as the double of this rank. -/
def readsBack (rank : Nat) (c : Decimal) : Bool :=
  match ofDecimal? false c.digits c.exponent with
  | some d => d.rank == rank
  | none => false

/-- The decimals with `count` digits next to the value: the one below and the one above, the nearer
    one first. -/
def neighbours (num den : Nat) (count : Nat) : List Decimal :=
  let exponent := leadingExponent num den - ((count : Int) - 1)
  let (n, m) := if 0 ≤ exponent then (num, den * Nat.pow 10 exponent.toNat)
    else (num * Nat.pow 10 (-exponent).toNat, den)
  let low := n / m
  let rest := n % m
  let below : Decimal := ⟨low, exponent⟩
  let above : Decimal := ⟨low + 1, exponent⟩
  if 2 * rest < m ∨ (2 * rest = m ∧ low % 2 = 0) then [below, above] else [above, below]

/-- The exact value in decimal; it always reads back. -/
def exactDecimal (d : Double) : Decimal := ⟨d.units * Nat.pow 5 1074, -1074⟩

/-- Move trailing zeros of the digits into the exponent. The fuel is the number of digits. -/
def dropZeros : Nat → Decimal → Decimal
  | 0, c => c
  | fuel + 1, c =>
    if c.digits ≠ 0 ∧ c.digits % 10 = 0 then dropZeros fuel ⟨c.digits / 10, c.exponent + 1⟩ else c

/-- The fewest digits that read back, and the nearest of those. -/
def shortest (d : Double) : Decimal :=
  let (num, den) := d.ratio
  let found := (List.range 17).findSome? fun i =>
    (neighbours num den (i + 1)).find? (readsBack d.rank)
  let c := found.getD d.exactDecimal
  dropZeros (digits c.digits).length c

/-- Zeros. -/
def zeros (n : Nat) : List Char := List.replicate n '0'

/-- How a number is written: exponents of the first digit from `low` to `high` are positional with
    at least one decimal, the others have a signed exponent. -/
structure Style where
  low : Int
  high : Int

/-- Digits with the decimal point after the one of exponent zero. -/
def positional (ds : List Char) (first : Int) : List Char :=
  if first < 0 then '0' :: '.' :: zeros ((-first).toNat - 1) ++ ds
  else
    let whole := first.toNat + 1
    if ds.length ≤ whole then ds ++ zeros (whole - ds.length) ++ ['.', '0']
    else ds.take whole ++ '.' :: ds.drop whole

/-- One digit before the point, and the exponent with its sign. -/
def scientific (ds : List Char) (first : Int) : List Char :=
  let mantissa := match ds with
    | [] => []
    | [d] => [d]
    | d :: rest => d :: '.' :: rest
  mantissa ++ 'e' :: (if first < 0 then '-' else '+') :: digits first.natAbs

/-- The text of a double in a style. -/
def chars (style : Style) (d : Double) : List Char :=
  let sign := if d.negative then ['-'] else []
  if d.rank = 0 then sign ++ ['0', '.', '0']
  else
    let c := d.shortest
    let ds := digits c.digits
    let first := c.exponent + (ds.length - 1 : Nat)
    sign ++ if style.low ≤ first ∧ first ≤ style.high then positional ds first
      else scientific ds first

/-- The exact absolute value with `places` decimals, a half to the even neighbour. -/
def fixed (places : Nat) (d : Double) : List Char :=
  let scaled := roundDiv (d.units * Nat.pow 10 places) one
  let ds := digits scaled
  let padded := zeros (places + 1 - ds.length) ++ ds
  let whole := padded.length - places
  padded.take whole ++ '.' :: padded.drop whole

end Uplift.Double
