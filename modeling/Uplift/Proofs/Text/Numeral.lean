import Uplift.Text.Numeral

set_option autoImplicit false

/-! # Laws of decimal numerals

Reading is one-to-one in two ways: numerals of the same length with the same value are the same
(`ofDigits_inj`), and a numeral without superfluous zeros is the one that is written for its value
(`digits_ofDigits`). What is written for a number has no superfluous zeros (`isCanonical_digits`). -/

namespace Uplift.Text

/-- The value of one digit. -/
def digitValue (c : Char) : Nat := c.toNat - '0'.toNat

theorem toNat_of_isDigit {c : Char} (h : c.isDigit = true) : 48 ≤ c.toNat ∧ c.toNat ≤ 57 := by
  simpa [Char.isDigit, UInt32.le_iff_toNat_le] using h

theorem digitValue_lt {c : Char} (h : c.isDigit = true) : digitValue c < 10 := by
  have hc := toNat_of_isDigit h
  show c.toNat - 48 < 10
  omega

theorem digitChar_digitValue {c : Char} (h : c.isDigit = true) : (digitValue c).digitChar = c := by
  have hc := toNat_of_isDigit h
  apply Char.toNat_inj.1
  rw [Nat.toNat_digitChar_of_lt_ten (digitValue_lt h), digitValue]
  show 48 + (c.toNat - 48) = c.toNat
  omega

theorem ofDigitChars_cons (c : Char) (cs : List Char) (n : Nat) :
    Nat.ofDigitChars 10 (c :: cs) n = Nat.ofDigitChars 10 cs (10 * n + digitValue c) :=
  Nat.ofDigitChars_cons

/-- Of two lists of digits of the same length, the values determine what was read before them and the
    digits themselves. -/
theorem ofDigitChars_inj {cs ds : List Char} {m n : Nat} (hlen : cs.length = ds.length)
    (hcs : ∀ c ∈ cs, c.isDigit = true) (hds : ∀ d ∈ ds, d.isDigit = true)
    (h : Nat.ofDigitChars 10 cs m = Nat.ofDigitChars 10 ds n) : m = n ∧ cs = ds := by
  induction cs generalizing ds m n with
  | nil =>
    obtain rfl : ds = [] := List.length_eq_zero_iff.1 hlen.symm
    exact ⟨h, rfl⟩
  | cons c cs ih =>
    cases ds with
    | nil => cases hlen
    | cons d ds =>
      simp only [List.mem_cons, forall_eq_or_imp] at hcs hds
      rw [ofDigitChars_cons, ofDigitChars_cons] at h
      obtain ⟨hstep, rfl⟩ := ih (by simpa using hlen) hcs.2 hds.2 h
      -- both digits are below the base
      have hc := digitValue_lt hcs.1
      have hd := digitValue_lt hds.1
      have hdigit : digitValue c = digitValue d := by omega
      obtain rfl : c = d := by
        rw [← digitChar_digitValue hcs.1, ← digitChar_digitValue hds.1, hdigit]
      exact ⟨by omega, rfl⟩

theorem ofDigits_inj {cs ds : List Char} (hlen : cs.length = ds.length)
    (hcs : ∀ c ∈ cs, c.isDigit = true) (hds : ∀ d ∈ ds, d.isDigit = true)
    (h : ofDigits cs = ofDigits ds) : cs = ds :=
  (ofDigitChars_inj hlen hcs hds h).2

/-- Digits that follow a positive number extend what is written for it. -/
theorem digits_ofDigitChars {cs : List Char} {n : Nat} (hn : 0 < n)
    (hcs : ∀ c ∈ cs, c.isDigit = true) : digits (Nat.ofDigitChars 10 cs n) = digits n ++ cs := by
  induction cs generalizing n with
  | nil => simp
  | cons c cs ih =>
    simp only [List.mem_cons, forall_eq_or_imp] at hcs
    have hdigit : digits (digitValue c) = [c] := by
      rw [digits, Nat.toDigits_of_lt_base (digitValue_lt hcs.1), digitChar_digitValue hcs.1]
    calc digits (Nat.ofDigitChars 10 (c :: cs) n)
        = digits (10 * n + digitValue c) ++ cs := by
          rw [ofDigitChars_cons, ih (by omega) hcs.2]
      _ = (digits n ++ digits (digitValue c)) ++ cs := by
          rw [digits, ← Nat.toDigits_append_toDigits (by decide) hn (digitValue_lt hcs.1)]
          rfl
      _ = digits n ++ c :: cs := by simp [hdigit]

theorem isNumeral_iff {cs : List Char} :
    isNumeral cs = true ↔ cs ≠ [] ∧ ∀ c ∈ cs, c.isDigit = true := by
  simp only [isNumeral, Bool.and_eq_true, Bool.not_eq_true', List.isEmpty_eq_false_iff,
    List.all_eq_true]

theorem isNumeral_of_isCanonical {cs : List Char} (h : isCanonical cs = true) :
    isNumeral cs = true := by
  unfold isCanonical at h
  split at h
  · rfl
  · cases h
  · exact h

theorem digits_ofDigits {cs : List Char} (h : isCanonical cs = true) : digits (ofDigits cs) = cs := by
  unfold isCanonical at h
  split at h
  · rfl
  · cases h
  · rename_i hzero hlead
    cases cs with
    | nil => cases h
    | cons c cs =>
      have hdigits : c.isDigit = true ∧ ∀ d ∈ cs, d.isDigit = true := by
        simpa [isNumeral] using h
      have hlead : c ≠ '0' := fun hc => hlead cs (by rw [hc])
      have hpos : 0 < digitValue c := by
        rcases Nat.eq_zero_or_pos (digitValue c) with hz | hpos
        · -- the only digit of value zero is the zero
          exact absurd (by rw [← digitChar_digitValue hdigits.1, hz]; rfl) hlead
        · exact hpos
      rw [ofDigits, ofDigitChars_cons, Nat.mul_zero, Nat.zero_add,
        digits_ofDigitChars hpos hdigits.2, digits,
        Nat.toDigits_of_lt_base (digitValue_lt hdigits.1), digitChar_digitValue hdigits.1]
      rfl

theorem isDigit_of_mem_digits {n : Nat} {c : Char} (h : c ∈ digits n) : c.isDigit = true :=
  Nat.isDigit_of_mem_toDigits (by decide) (by decide) h

theorem isNumeral_digits (n : Nat) : isNumeral (digits n) = true :=
  isNumeral_iff.2 ⟨digits_ne_nil n, fun _ hc => isDigit_of_mem_digits hc⟩

theorem head?_digits_ne_zero {n : Nat} (hn : 0 < n) : (digits n).head? ≠ some '0' := by
  induction n using Nat.strongRecOn with
  | ind n ih =>
    rcases Nat.lt_or_ge n 10 with hlt | hge
    · rw [digits, Nat.toDigits_of_lt_base hlt]
      intro h
      have hzero : n.digitChar = '0' := by simpa using h
      have hnat : n.digitChar.toNat = 48 := by rw [hzero]; rfl
      rw [Nat.toNat_digitChar_of_lt_ten hlt] at hnat
      omega
    · have hdiv : 0 < n / 10 := Nat.div_pos hge (by decide)
      have hhead := ih (n / 10) (Nat.div_lt_self hn (by decide)) hdiv
      rw [digits, Nat.toDigits_of_base_le (by decide) hge]
      rwa [List.head?_append, Option.or_of_isSome (by simp [Nat.toDigits_ne_nil])]

theorem isCanonical_digits (n : Nat) : isCanonical (digits n) = true := by
  rcases Nat.eq_zero_or_pos n with rfl | hn
  · rfl
  have hhead := head?_digits_ne_zero hn
  unfold isCanonical
  split
  · rfl
  · rename_i hzero
    rw [hzero] at hhead
    exact absurd rfl hhead
  · exact isNumeral_digits n

end Uplift.Text
