set_option autoImplicit false

/-! # Blank characters

Version texts, ranges and process output are trimmed and split at white space in the sense of
the Unicode property `White_Space`, which is wider than the ASCII blanks: it has the no-break
space, the ideographic space and the two Unicode line separators.

Texts are handled as lists of characters, so that every function here recurses on its
argument. -/

namespace Uplift.Text

/-- Characters with the property `White_Space`. -/
def isBlank (c : Char) : Bool :=
  let n := c.toNat
  (0x9 ≤ n && n ≤ 0xD) || n == 0x20 || n == 0x85 || n == 0xA0 || n == 0x1680 ||
    (0x2000 ≤ n && n ≤ 0x200A) || n == 0x2028 || n == 0x2029 || n == 0x202F ||
    n == 0x205F || n == 0x3000

/-- Drop the blanks at the front. -/
def trimLeft (cs : List Char) : List Char := cs.dropWhile isBlank

/-- Drop the blanks at the end. -/
def trimRight (cs : List Char) : List Char := (cs.reverse.dropWhile isBlank).reverse

/-- Drop the blanks at both ends. -/
def trim (cs : List Char) : List Char := trimRight (trimLeft cs)

/-- A string without the blanks at its ends. -/
def trimmed (s : String) : String := String.ofList (trim s.toList)

/-! ## Laws -/

theorem trimLeft_of_forall {cs : List Char} (h : ∀ c ∈ cs, isBlank c = false) :
    trimLeft cs = cs := by
  cases cs with
  | nil => rfl
  | cons c cs => simp [trimLeft, h c List.mem_cons_self]

theorem trim_of_forall {cs : List Char} (h : ∀ c ∈ cs, isBlank c = false) : trim cs = cs := by
  have hback : trimLeft cs.reverse = cs.reverse :=
    trimLeft_of_forall fun c hc => h c (List.mem_reverse.1 hc)
  rw [trim, trimLeft_of_forall h]
  show (trimLeft cs.reverse).reverse = cs
  rw [hback, List.reverse_reverse]

end Uplift.Text
