set_option autoImplicit false

/-! # Finite doubles

JSON numbers that are no integers, and seconds, are binary floating-point numbers with 53 bits of
significand. They are kept here as data: a sign and a *rank*, the position of the absolute value
among all finite doubles, counted from zero. Their arithmetic is exact arithmetic on natural
numbers followed by one rounding, so that nothing rests on the machine's own floating point.

Every finite double is a whole multiple of `2 ^ -1074`. `units` counts these multiples, and
`roundRatio` finds the rank nearest to a fraction of natural numbers. -/

namespace Uplift

/-- The number of non-negative finite doubles. -/
def rankLimit : Nat := 0x7FF0000000000000

/-- A finite double: its sign and the rank of its absolute value. -/
structure Double where
  negative : Bool
  rank : Nat
  finite : rank < rankLimit
  deriving DecidableEq, Repr

namespace Double

instance : Inhabited Double := ⟨⟨false, 0, by decide⟩⟩

/-- Positive zero. -/
def zero : Double := ⟨false, 0, by decide⟩

/-- The absolute value of the double of a rank, in multiples of `2 ^ -1074`: ranks below `2 ^ 52`
    have no leading bit, and each later block of `2 ^ 52` ranks doubles the distance. -/
def unitsOfRank (rank : Nat) : Nat :=
  let block := Nat.pow 2 52
  if rank < block then rank
  else (block + rank % block) * Nat.pow 2 (rank / block - 1)

/-- The absolute value in multiples of `2 ^ -1074`. -/
def units (d : Double) : Nat := unitsOfRank d.rank

/-- The number of units in one. -/
def one : Nat := Nat.pow 2 1074

/-- The same value with the sign flipped. -/
def neg (d : Double) : Double := { d with negative := !d.negative }

/-- Numerical equality: the two zeros are equal. -/
def same (d e : Double) : Bool :=
  d.rank == e.rank && (d.negative == e.negative || d.rank == 0)

/-- Whether the value is below zero; negative zero is not. -/
def isNegative (d : Double) : Bool := d.negative && d.rank != 0

/-! ## Rounding -/

/-- The quotient `num / den` rounded to a whole number, a half to the even neighbour. -/
def roundDiv (num den : Nat) : Nat :=
  let q := num / den
  let r := num % den
  if 2 * r < den then q
  else if 2 * r = den then q + q % 2
  else q + 1

/-- The rank nearest to `num / den` units, a half to the even neighbour. Above `2 ^ 53` units the
    ranks stand `2 ^ shift` units apart. -/
def rankOfUnits (num den : Nat) : Nat :=
  let shift := Nat.log2 (num / den) - 52
  shift * Nat.pow 2 52 + roundDiv num (den * Nat.pow 2 shift)

/-- The double nearest to `num / den` with a sign, if it is in range. -/
def roundRatio (negative : Bool) (num den : Nat) : Option Double :=
  let rank := rankOfUnits (num * one) den
  if h : rank < rankLimit then some ⟨negative, rank, h⟩ else none

/-- The double nearest to a natural number below `2 ^ 64`. -/
def ofNat? (n : Nat) : Option Double := roundRatio false n 1

/-- The product, if it is in range. -/
def mul? (d e : Double) : Option Double :=
  roundRatio (d.negative != e.negative) (d.units * e.units) (one * one)

/-- The quotient, if it is in range; the divisor is not zero. -/
def div? (d e : Double) : Option Double :=
  roundRatio (d.negative != e.negative) d.units e.units

/-- The sum of two non-negative values, if it is in range. -/
def addAbs? (d e : Double) : Option Double := roundRatio false (d.units + e.units) one

/-- The double nearest to `digits * 10 ^ exponent`, if it is in range. Exponents far outside the
    range are decided by the number of digits alone. -/
def ofDecimal? (negative : Bool) (digits : Nat) (exponent : Int) : Option Double :=
  if digits = 0 then roundRatio negative 0 1
  else
    let size : Int := Nat.log2 digits
    if exponent > 400 then none
    else if exponent + size < -400 then roundRatio negative 0 1
    else if 0 ≤ exponent then roundRatio negative (digits * Nat.pow 10 exponent.toNat) 1
    else roundRatio negative digits (Nat.pow 10 (-exponent).toNat)

end Double

end Uplift
