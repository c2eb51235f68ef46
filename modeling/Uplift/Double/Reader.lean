import Uplift.Double.Basic
import Uplift.Text.Numeral

set_option autoImplicit false

/-! # Reading decimals

A decimal is a sign, digits with a point somewhere, and an exponent; sign, point and exponent may be
missing, but not all digits. It stands for the double nearest to it. -/

namespace Uplift.Double

open Text

/-- An exponent after `e` or `E`; the empty text is the exponent zero. -/
def readExponent? : List Char → Option Int
  | [] => some 0
  | c :: rest =>
    if c = 'e' ∨ c = 'E' then
      match rest with
      | '-' :: ds => (natOf? ds).map fun n => -(n : Int)
      | '+' :: ds => (natOf? ds).map Int.ofNat
      | ds => (natOf? ds).map Int.ofNat
    else none

/-- The double nearest to a decimal without sign; none when it is out of range. -/
def readAbs? (negative : Bool) (cs : List Char) : Option Double := do
  let (whole, cs) := cs.span Char.isDigit
  let (fraction, cs) := match cs with
    | '.' :: rest => rest.span Char.isDigit
    | cs => ([], cs)
  let exponent ← readExponent? cs
  if whole.isEmpty && fraction.isEmpty then none
  else ofDecimal? negative (ofDigits (whole ++ fraction)) (exponent - fraction.length)

/-- The double nearest to a decimal; none when it is out of range. -/
def read? : List Char → Option Double
  | '-' :: rest => readAbs? true rest
  | '+' :: rest => readAbs? false rest
  | cs => readAbs? false cs

end Uplift.Double
