import Mathlib.Data.List.TakeDrop
import Uplift.Json.Parser
import Uplift.Json.Printer

set_option autoImplicit false

/-! # Reading single tokens

What the printer writes for a string is read as that string, whatever comes after it
(`stringBody_escape`). A number that was read is read in the same way when more text follows, as long as
that text does not go on with the number (`lexNumber_append`). Blanks in front of a value never count. -/

namespace Uplift.Json

/-! ## Blanks -/

theorem skipGap_newline (level : Nat) (rest : List Char) :
    skipGap (newline level ++ rest) = skipGap rest := by
  refine List.dropWhile_append_of_pos fun c hc => ?_
  rcases List.mem_cons.1 hc with rfl | hc
  · rfl
  · rw [List.eq_of_mem_replicate hc]
    rfl

theorem skipGap_cons_of_not_gap {c : Char} (h : isGap c = false) (rest : List Char) :
    skipGap (c :: rest) = c :: rest := by
  simp [skipGap, h]

theorem skipGap_append {cs : List Char} (h : skipGap cs ≠ []) (rest : List Char) :
    skipGap (cs ++ rest) = skipGap cs ++ rest := by
  have hne : (cs.dropWhile isGap).isEmpty = false := by simpa [skipGap] using h
  simp [skipGap, List.dropWhile_append, hne]

theorem skipGap_append_of_skipGap_eq_nil {cs : List Char} (h : skipGap cs = []) (rest : List Char) :
    skipGap (cs ++ rest) = skipGap rest := by
  have hempty : cs.dropWhile isGap = [] := h
  simp [skipGap, List.dropWhile_append, hempty]

theorem isGap_of_skipGap_eq_cons {cs rest : List Char} {c : Char} (h : skipGap cs = c :: rest) :
    isGap c = false := by
  have hhead := List.head?_dropWhile_not isGap cs
  have hcons : cs.dropWhile isGap = c :: rest := h
  simpa [hcons] using hhead

@[simp] theorem skipGap_skipGap (cs : List Char) : skipGap (skipGap cs) = skipGap cs := by
  cases h : skipGap cs with
  | nil => rfl
  | cons c rest => exact skipGap_cons_of_not_gap (isGap_of_skipGap_eq_cons h) rest

/-! ## Strings -/

theorem hexValue?_hexDigit (n : Nat) : hexValue? (hexDigit n) = some (n % 16) := by
  have hdigits : ∀ d : Fin 16, hexValue? (Nat.digitChar d) = some d.val := by decide
  exact hdigits ⟨n % 16, Nat.mod_lt n (by decide)⟩

theorem unit?_control {n : Nat} (h : n < 0x20) :
    unit? '0' '0' (hexDigit (n / 16)) (hexDigit n) = some n := by
  have hzero : hexValue? '0' = some 0 := rfl
  simp only [unit?, hexValue?_hexDigit, hzero, Option.bind_eq_bind, Option.bind_some,
    Option.pure_def, Option.some.injEq]
  omega

theorem stringBody_escape (c : Char) (rest : List Char) :
    stringBody (escape c ++ rest) = consChar (some c) (stringBody rest) := by
  unfold escape
  -- the seven characters with an escape of one letter
  iterate 7
    split
    · rename_i h
      subst h
      rfl
  split
  · rename_i hcontrol
    have hlow : ¬ (0xD800 ≤ c.toNat ∧ c.toNat ≤ 0xDBFF) := by omega
    have hlone : lone? c.toNat = some c := by
      rw [lone?, if_neg (by omega), Char.ofNat_toNat]
    simp only [List.cons_append, List.nil_append, stringBody, unit?_control hcontrol, hlow, if_false,
      hlone]
  · rename_i hslash _ _ _ _ _ hcontrol
    simp [stringBody, hslash, hcontrol]

theorem stringBody_flatMap_escape (cs rest : List Char) :
    stringBody (cs.flatMap escape ++ '"' :: rest) = some (cs, rest) := by
  induction cs with
  | nil => rfl
  | cons c cs ih =>
    rw [List.flatMap_cons, List.append_assoc, stringBody_escape, ih]
    rfl

/-! ## Numbers -/

/-- Whether a character after a number would be taken for a part of it. -/
def continues (c : Char) : Bool := c.isDigit || c == '.' || c == 'e' || c == 'E'

/-- A text that does not go on with a number in front of it. -/
def Ends (rest : List Char) : Prop := ∀ c, rest.head? = some c → continues c = false

theorem ends_cons {c : Char} (h : continues c = false) (rest : List Char) : Ends (c :: rest) := by
  intro d hd
  rw [← Option.some.inj hd, h]

theorem ends_newline (level : Nat) (rest : List Char) : Ends (newline level ++ rest) :=
  ends_cons rfl _

variable {cs rest rest' : List Char}

theorem takeDigits_eq (cs : List Char) :
    takeDigits cs = (cs.takeWhile Char.isDigit, cs.dropWhile Char.isDigit) :=
  List.span_eq_takeWhile_dropWhile Char.isDigit cs

theorem takeDigits_append {ds : List Char} (h : takeDigits cs = (ds, rest)) (hends : Ends rest') :
    takeDigits (cs ++ rest') = (ds, rest ++ rest') := by
  rw [takeDigits_eq] at h ⊢
  obtain ⟨rfl, rfl⟩ := Prod.mk.inj h
  induction cs with
  | nil =>
    cases rest' with
    | nil => rfl
    | cons c rest' =>
      have hc : c.isDigit = false := by
        have := hends c rfl
        simp only [continues, Bool.or_eq_false_iff] at this
        exact this.1.1.1
      simp [hc]
  | cons c cs ih =>
    cases hc : c.isDigit with
    | true => simpa [hc] using ih rfl
    | false => simp [hc]

theorem lexWhole_append {whole : List Char} (h : lexWhole cs = some (whole, rest))
    (hends : Ends rest') : lexWhole (cs ++ rest') = some (whole, rest ++ rest') := by
  unfold lexWhole at h ⊢
  rcases hdigits : takeDigits cs with ⟨ds, tail⟩
  rw [hdigits] at h
  rw [takeDigits_append hdigits hends]
  cases ds with
  | nil => cases h
  | cons d ds =>
    by_cases hd : d = '0'
    · subst hd
      cases ds with
      | nil =>
        obtain ⟨rfl, rfl⟩ := Prod.mk.inj (Option.some.inj h)
        rfl
      | cons e ds => cases h
    · simp [hd] at h
      obtain ⟨rfl, rfl⟩ := h
      simp [hd]

theorem lexFraction_of_ends (hends : Ends rest') : lexFraction rest' = some (none, rest') := by
  unfold lexFraction
  split
  · rename_i tail
    have hdot := hends '.' rfl
    cases hdot
  · rfl

theorem lexFraction_append {fraction : Option (List Char)} (h : lexFraction cs = some (fraction, rest))
    (hends : Ends rest') : lexFraction (cs ++ rest') = some (fraction, rest ++ rest') := by
  cases cs with
  | nil =>
    obtain ⟨rfl, rfl⟩ := Prod.mk.inj (Option.some.inj h)
    exact lexFraction_of_ends hends
  | cons c cs =>
    by_cases hc : c = '.'
    · subst hc
      simp only [lexFraction, List.cons_append] at h ⊢
      rcases hdigits : takeDigits cs with ⟨ds, tail⟩
      rw [hdigits] at h
      rw [takeDigits_append hdigits hends]
      cases ds with
      | nil => cases h
      | cons d ds => simp_all
    · simp [lexFraction, hc] at h
      obtain ⟨rfl, rfl⟩ := h
      simp [lexFraction, hc]

theorem lexPower_append {up : Bool} {exponent : Option (Bool × List Char)}
    (h : lexPower up cs = some (exponent, rest)) (hends : Ends rest') :
    lexPower up (cs ++ rest') = some (exponent, rest ++ rest') := by
  unfold lexPower at h ⊢
  rcases hdigits : takeDigits cs with ⟨ds, tail⟩
  rw [hdigits] at h
  rw [takeDigits_append hdigits hends]
  cases ds with
  | nil => cases h
  | cons d ds => simp_all

theorem lexExponent_of_ends (hends : Ends rest') : lexExponent rest' = some (none, rest') := by
  cases rest' with
  | nil => rfl
  | cons c rest' =>
    have hc := hends c rfl
    have hletter : ¬ (c = 'e' ∨ c = 'E') := by
      rintro (rfl | rfl) <;> cases hc
    simp [lexExponent, hletter]

theorem lexExponent_append {exponent : Option (Bool × List Char)}
    (h : lexExponent cs = some (exponent, rest)) (hends : Ends rest') :
    lexExponent (cs ++ rest') = some (exponent, rest ++ rest') := by
  cases cs with
  | nil =>
    obtain ⟨rfl, rfl⟩ := Prod.mk.inj (Option.some.inj h)
    exact lexExponent_of_ends hends
  | cons c cs =>
    by_cases hletter : c = 'e' ∨ c = 'E'
    · simp only [lexExponent, List.cons_append, if_pos hletter] at h ⊢
      -- an exponent has a digit, so what follows the letter is not empty
      cases cs with
      | nil => cases h
      | cons s cs =>
        by_cases hplus : s = '+'
        · subst hplus
          exact lexPower_append h hends
        · by_cases hminus : s = '-'
          · subst hminus
            exact lexPower_append h hends
          · simp [hplus, hminus] at h ⊢
            exact lexPower_append h hends
    · simp only [lexExponent, List.cons_append, if_neg hletter, Option.some.injEq,
        Prod.mk.injEq] at h ⊢
      obtain ⟨rfl, rfl⟩ := h
      exact ⟨rfl, rfl⟩

/-- A number after its sign. -/
def lexUnsigned (negative : Bool) (cs : List Char) : Option (Lexeme × List Char) := do
  let (whole, cs) ← lexWhole cs
  let (fraction, cs) ← lexFraction cs
  let (exponent, cs) ← lexExponent cs
  return (⟨negative, whole, fraction, exponent⟩, cs)

theorem lexUnsigned_append {negative : Bool} {n : Lexeme}
    (h : lexUnsigned negative cs = some (n, rest)) (hends : Ends rest') :
    lexUnsigned negative (cs ++ rest') = some (n, rest ++ rest') := by
  simp only [lexUnsigned, Option.bind_eq_bind, Option.bind_eq_some_iff, Prod.exists] at h
  obtain ⟨whole, cs₁, hwhole, fraction, cs₂, hfraction, exponent, cs₃, hexponent, h⟩ := h
  obtain ⟨rfl, rfl⟩ := Prod.mk.inj (Option.some.inj h)
  simp [lexUnsigned, lexWhole_append hwhole hends, lexFraction_append hfraction hends,
    lexExponent_append hexponent hends]

/-- A number is read in the same way from a longer text that does not go on with it. -/
theorem lexNumber_append {n : Lexeme} (h : lexNumber cs = some (n, rest)) (hends : Ends rest') :
    lexNumber (cs ++ rest') = some (n, rest ++ rest') := by
  cases cs with
  | nil => cases h
  | cons c cs =>
    by_cases hminus : c = '-'
    · subst hminus
      exact lexUnsigned_append h hends
    · have hsign : ∀ tail, lexNumber (c :: tail) = lexUnsigned false (c :: tail) := by
        intro tail
        simp [lexNumber, lexUnsigned, hminus]
      rw [hsign] at h
      rw [List.cons_append, hsign]
      exact lexUnsigned_append h hends

end Uplift.Json
