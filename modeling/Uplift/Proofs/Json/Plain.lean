import Mathlib.Data.List.TakeWhile
import Uplift.Proofs.Json.RoundTrip
import Uplift.Proofs.Text.Numeral

set_option autoImplicit false

/-! # Values without doubles

An integer of 64 bits, with a sign or without, is written with its decimal digits and nothing else, and
its digits never outgrow the significand that they are collected in; so it is read back as itself
(`read?_compact_int`). A value is *plain* if its numbers are of this kind and no object in it has a key
twice. Plain values are legible down to the depth at which they are nested (`legible_of_isPlain`). -/

namespace Uplift.Json

open Text

/-! ## Reading digits -/

theorem takeDigits_digits (n : Nat) : takeDigits (digits n) = (digits n, []) := by
  have hall : ∀ c ∈ digits n, c.isDigit = true := fun c hc => isDigit_of_mem_digits hc
  rw [takeDigits_eq, List.takeWhile_eq_self_iff.2 hall, List.dropWhile_eq_nil_iff.2 hall]

theorem lexWhole_digits (n : Nat) : lexWhole (digits n) = some (digits n, []) := by
  have hcanonical := isCanonical_digits n
  unfold lexWhole
  rw [takeDigits_digits]
  split
  · rename_i hnil
    exact absurd (Prod.mk.inj hnil).1 (digits_ne_nil n)
  · rename_i rest hzero
    obtain ⟨hdigits, rfl⟩ := Prod.mk.inj hzero
    rw [hdigits]
  · rename_i d ds rest hlead
    obtain ⟨hdigits, -⟩ := Prod.mk.inj hlead
    rw [hdigits] at hcanonical
    cases hcanonical
  · rfl

theorem lexUnsigned_digits (negative : Bool) (n : Nat) :
    lexUnsigned negative (digits n) = some (⟨negative, digits n, none, none⟩, []) := by
  have hends : Ends [] := fun c hc => by cases hc
  simp [lexUnsigned, lexWhole_digits, lexFraction_of_ends hends, lexExponent_of_ends hends]

theorem le_ofDigitChars (cs : List Char) (n : Nat) : n ≤ Nat.ofDigitChars 10 cs n := by
  induction cs generalizing n with
  | nil => simp
  | cons c cs ih =>
    rw [ofDigitChars_cons]
    have hrest := ih (10 * n + Text.digitValue c)
    omega

/-- Digits of a number that fits are all collected. The number so far is never more than the whole, so
    that each digit fits when its turn comes. -/
theorem foldl_addWhole {cs : List Char} {n : Nat} (h : Nat.ofDigitChars 10 cs n < UInt64.size) :
    cs.foldl Significand.addWhole ⟨n, 0, false⟩ = ⟨Nat.ofDigitChars 10 cs n, 0, false⟩ := by
  induction cs generalizing n with
  | nil => simp
  | cons c cs ih =>
    rw [ofDigitChars_cons] at h ⊢
    have hfits : 10 * n + Text.digitValue c < UInt64.size := Nat.lt_of_le_of_lt (le_ofDigitChars cs _) h
    have hstep : Significand.addWhole ⟨n, 0, false⟩ c = ⟨10 * n + Text.digitValue c, 0, false⟩ := by
      have hvalue : n * 10 + digitValue c = 10 * n + Text.digitValue c := by
        rw [Nat.mul_comm]
        rfl
      have hroom : ¬ UInt64.size ≤ 10 * n + Text.digitValue c := by omega
      simp [Significand.addWhole, hvalue, hroom]
    rw [List.foldl_cons, hstep, ih h]

theorem value_of_digits (negative : Bool) {n : Nat} (h : n < UInt64.size) :
    Lexeme.value ⟨negative, digits n, none, none⟩ = integerOf negative n := by
  have hdigits : Nat.ofDigitChars 10 (digits n) 0 = n := ofDigits_digits n
  have hfold : (digits n).foldl Significand.addWhole ⟨0, 0, false⟩ = ⟨n, 0, false⟩ := by
    rw [foldl_addWhole (by rw [hdigits]; exact h), hdigits]
  simp [Lexeme.value, hfold]

/-! ## Integers -/

theorem scalar_of_lexNumber {c : Char} (hc : c = '-' ∨ c.isDigit = true) (cs : List Char) :
    scalar (c :: cs) = (lexNumber (c :: cs)).bind fun r => r.1.value.map fun v => (v, r.2) := by
  have hother : ∀ d : Char, d ≠ '-' → d.isDigit = false → c ≠ d := by
    rintro d hminus hdigit rfl
    rcases hc with hc | hc
    · exact hminus hc
    · rw [hdigit] at hc
      cases hc
  have hn := hother 'n' (by decide) (by decide)
  have ht := hother 't' (by decide) (by decide)
  have hf := hother 'f' (by decide) (by decide)
  have hquote := hother '"' (by decide) (by decide)
  unfold scalar
  split
  · rename_i heq
    exact absurd (List.cons.inj heq).1 hn
  · rename_i heq
    exact absurd (List.cons.inj heq).1 ht
  · rename_i heq
    exact absurd (List.cons.inj heq).1 hf
  · rename_i heq
    exact absurd (List.cons.inj heq).1 hquote
  · cases lexNumber (c :: cs) with
    | none => rfl
    | some r => cases hvalue : r.1.value <;> simp [hvalue]

/-- The integers that are kept as integers. -/
def inWord (i : Int) : Bool := -(Nat.pow 2 63 : Int) ≤ i && i < (UInt64.size : Int)

theorem scalar_intChars {i : Int} (h : inWord i = true) : scalar (intChars i) = some (.int i, []) := by
  simp only [inWord, Bool.and_eq_true, decide_eq_true_eq] at h
  obtain ⟨hlow, hhigh⟩ := h
  cases i with
  | ofNat n =>
    have hn : n < UInt64.size := Int.ofNat_lt.1 hhigh
    obtain ⟨c, cs, hdigits⟩ := List.exists_cons_of_ne_nil (digits_ne_nil n)
    have hc : c.isDigit = true := isDigit_of_mem_digits (hdigits ▸ List.mem_cons_self)
    have hminus : c ≠ '-' := by
      rintro rfl
      cases hc
    have hlex : lexNumber (c :: cs) = some (⟨false, digits n, none, none⟩, []) := by
      rw [← lexUnsigned_digits false n, hdigits]
      simp [lexNumber, lexUnsigned, hminus]
    rw [intChars, hdigits, scalar_of_lexNumber (Or.inr hc), hlex, Option.bind_some,
      value_of_digits false hn]
    rfl
  | negSucc n =>
    have hn : n + 1 ≤ Nat.pow 2 63 := by omega
    have hsize : n + 1 < UInt64.size := Nat.lt_of_le_of_lt hn (by decide)
    have hlex : lexNumber ('-' :: digits (n + 1)) = some (⟨true, digits (n + 1), none, none⟩, []) :=
      lexUnsigned_digits true (n + 1)
    have hvalue : integerOf true (n + 1) = some (.int (.negSucc n)) := by
      have hrange : ¬ (n + 1 = 0 ∨ Nat.pow 2 63 < n + 1) := by omega
      simp only [integerOf, Bool.not_true, Bool.false_eq_true, ↓reduceIte, if_neg hrange]
      rfl
    rw [intChars, scalar_of_lexNumber (Or.inl rfl), hlex, Option.bind_some,
      value_of_digits true hsize, hvalue]
    rfl

/-- **An integer of 64 bits is read back.** -/
theorem read?_compact_int {i : Int} (h : inWord i = true) :
    read? (Json.int i).compact = some (.int i) := by
  have hscalar := scalar_intChars h
  have hstart : skipGap (intChars i) = intChars i := by
    cases i with
    | negSucc n => exact skipGap_cons_of_not_gap rfl _
    | ofNat n =>
      obtain ⟨c, cs, hdigits⟩ := List.exists_cons_of_ne_nil (digits_ne_nil n)
      have hc : c.isDigit = true := isDigit_of_mem_digits (hdigits ▸ List.mem_cons_self)
      have hgap : isGap c = false := by
        have hrange := toNat_of_isDigit hc
        simp only [isGap, Bool.or_eq_false_iff, beq_eq_false_iff_ne]
        refine ⟨⟨⟨?_, ?_⟩, ?_⟩, ?_⟩ <;> rintro rfl <;> revert hrange <;> decide
      rw [intChars, hdigits]
      exact skipGap_cons_of_not_gap hgap cs
  have hvalue : value maxDepth (intChars i) = some (.int i, []) :=
    value_of_scalar (by rw [hstart]; exact hscalar) maxDepth
  have htext : (Json.int i).compact.toList = intChars i := String.toList_ofList
  have hblank : (skipGap []).isEmpty = true := rfl
  simp only [read?, readChars, htext, hvalue, hblank, ↓reduceIte]

/-! ## Plain values -/

mutual

/-- Whether all numbers in a value are integers of 64 bits, and no object in it has a key twice. -/
def isPlain : Json → Bool
  | .int i => inWord i
  | .float _ => false
  | .arr items => arePlainItems items
  | .obj fields => decide (Fields.keys fields).Nodup && arePlainFields fields
  | _ => true

/-- Whether some items are plain. -/
def arePlainItems : List Json → Bool
  | [] => true
  | v :: vs => isPlain v && arePlainItems vs

/-- Whether the values of some members are plain. -/
def arePlainFields : List (String × Json) → Bool
  | [] => true
  | (_, v) :: fs => isPlain v && arePlainFields fs

end

mutual

theorem legible_of_isPlain : ∀ (v : Json) {depth : Nat}, v.isPlain = true → v.depth ≤ depth →
    Legible depth v
  | .null, _, _, _ => .null
  | .bool _, _, _, _ => .bool
  | .str _, _, _, _ => .str
  | .int _, _, hplain, _ => .number rfl (read?_compact_int hplain)
  | .float _, _, hplain, _ => by cases hplain
  | .arr _, 0, _, hdepth => by simp [Json.depth] at hdepth
  | .arr items, depth + 1, hplain, hdepth =>
    .arr (legible_of_arePlainItems items hplain (by simpa [Json.depth] using hdepth))
  | .obj _, 0, _, hdepth => by simp [Json.depth] at hdepth
  | .obj fields, depth + 1, hplain, hdepth => by
    simp only [isPlain, Bool.and_eq_true, decide_eq_true_eq] at hplain
    exact .obj hplain.1
      (legible_of_arePlainFields fields hplain.2 (by simpa [Json.depth] using hdepth))

theorem legible_of_arePlainItems : ∀ (vs : List Json) {depth : Nat}, arePlainItems vs = true →
    depthItems vs ≤ depth → ∀ v ∈ vs, Legible depth v
  | [], _, _, _ => by simp
  | v :: vs, depth, hplain, hdepth => by
    simp only [arePlainItems, Bool.and_eq_true] at hplain
    simp only [depthItems] at hdepth
    have hfirst : Legible depth v := legible_of_isPlain v hplain.1 (by omega)
    have hrest : ∀ w ∈ vs, Legible depth w := legible_of_arePlainItems vs hplain.2 (by omega)
    exact List.forall_mem_cons.2 ⟨hfirst, hrest⟩

theorem legible_of_arePlainFields : ∀ (fs : List (String × Json)) {depth : Nat},
    arePlainFields fs = true → depthFields fs ≤ depth → ∀ e ∈ fs, Legible depth e.2
  | [], _, _, _ => by simp
  | (k, v) :: fs, depth, hplain, hdepth => by
    simp only [arePlainFields, Bool.and_eq_true] at hplain
    simp only [depthFields] at hdepth
    have hfirst : Legible depth v := legible_of_isPlain v hplain.1 (by omega)
    have hrest : ∀ e ∈ fs, Legible depth e.2 := legible_of_arePlainFields fs hplain.2 (by omega)
    exact List.forall_mem_cons.2 ⟨hfirst, hrest⟩

end

end Uplift.Json
