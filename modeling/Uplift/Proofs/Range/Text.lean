import Uplift.Proofs.Version.Text
import Uplift.Target

set_option autoImplicit false

/-! # Ranges and targets are read back

A range is printed as one or two tokens with a blank between them, each an operator and a version. A
version has no blanks, so the tokens are found again. It starts with a digit, so the operator ends where
the version starts: `>` before a version is never taken for `>=` (`operatorOf_append`). Two tokens are a
lower and an upper end, and the one fills the slot that the other leaves empty. -/

namespace Uplift

open Text

namespace Range

/-! ## Tokens -/

/-- The characters of an operator. -/
def Operator.chars : Operator → List Char
  | .atLeast => ['>', '=']
  | .atMost => ['<', '=']
  | .above => ['>']
  | .below => ['<']
  | .exactly => ['=']

/-- A text that is read as a version does not start like an operator. -/
theorem head_ne_of_readLenient? {d : Char} {rest : List Char} {v : Version}
    (hread : Version.readLenient? (String.ofList (d :: rest)) = some v) :
    d ≠ '=' ∧ d ≠ '<' ∧ d ≠ '>' := by
  have hhead := Version.head_of_readLenient? hread
  refine ⟨?_, ?_, ?_⟩ <;> rintro rfl <;> revert hhead <;> decide

theorem operatorOf_append (op : Operator) {rest : List Char} {v : Version}
    (hread : Version.readLenient? (String.ofList rest) = some v) :
    operatorOf (op.chars ++ rest) = (op, rest) := by
  cases rest with
  | nil => cases hread
  | cons d rest =>
    obtain ⟨hne, -, -⟩ := head_ne_of_readLenient? hread
    cases op <;> simp [Operator.chars, operatorOf, hne]

theorem operatorOf_chars (op : Operator) (v : Version) :
    operatorOf (op.chars ++ v.chars) = (op, v.chars) :=
  operatorOf_append op v.readLenient?_text

theorem token_ne_nil (op : Operator) (v : Version) : op.chars ++ v.chars ≠ [] := by
  simp [v.chars_ne_nil]

theorem isBlank_of_mem_token {op : Operator} {v : Version} {c : Char} (h : c ∈ op.chars ++ v.chars) :
    isBlank c = false := by
  have hop : op.chars.all (!isBlank ·) = true := by
    cases op <;> rfl
  rcases List.mem_append.1 h with h | h
  · simpa using List.all_eq_true.1 hop c h
  · exact Version.isBlank_of_mem_chars h

theorem addToken_eq (r : Range) {token : List Char} (htoken : ¬ (token = ['*'] ∨ token = ['x'])) :
    addToken r token = match Version.readLenient? (String.ofList (operatorOf token).2) with
      | none => .error (.badVersion (String.ofList (operatorOf token).2))
      | some v => narrow r (operatorOf token).1 v :=
  if_neg htoken

theorem addToken_chars (r : Range) (op : Operator) (v : Version) :
    addToken r (op.chars ++ v.chars) = narrow r op v := by
  -- no token with an operator is one of the two that say nothing
  have hsays : ¬ (op.chars ++ v.chars = ['*'] ∨ op.chars ++ v.chars = ['x']) := by
    cases op <;> simp [Operator.chars]
  have hread : Version.readLenient? (String.ofList v.chars) = some v := v.readLenient?_text
  rw [addToken_eq r hsays, operatorOf_chars]
  simp only [hread]

/-! ## Ends -/

/-- The operator that a lower end is printed with. -/
def lowerOperator (b : Bound) : Operator := if b.inclusive then .atLeast else .above

/-- The operator that an upper end is printed with. -/
def upperOperator (b : Bound) : Operator := if b.inclusive then .atMost else .below

theorem toList_lowerText (b : Bound) :
    (lowerText b).toList = (lowerOperator b).chars ++ b.version.chars := by
  unfold lowerText lowerOperator
  split <;> simp [Operator.chars, Version.text]

theorem toList_upperText (b : Bound) :
    (upperText b).toList = (upperOperator b).chars ++ b.version.chars := by
  unfold upperText upperOperator
  split <;> simp [Operator.chars, Version.text]

theorem addToken_lower (upper : Option Bound) (b : Bound) :
    addToken ⟨none, upper⟩ ((lowerOperator b).chars ++ b.version.chars) = .ok ⟨some b, upper⟩ := by
  obtain ⟨v, inclusive⟩ := b
  rw [addToken_chars]
  cases inclusive <;> rfl

theorem addToken_upper (lower : Option Bound) (b : Bound) :
    addToken ⟨lower, none⟩ ((upperOperator b).chars ++ b.version.chars) = .ok ⟨lower, some b⟩ := by
  obtain ⟨v, inclusive⟩ := b
  rw [addToken_chars]
  cases inclusive <;> rfl

/-! ## Ranges -/

theorem parse_of_ofTokens {text : String} {r : Range}
    (h : ofTokens (words text.toList) = .ok r) : parse text = .ok r := by
  rw [parse, h]

theorem parse_exact (v : Version) : parse ("=" ++ v.text) = .ok (exact v) := by
  have hchars : ("=" ++ v.text).toList = Operator.exactly.chars ++ v.chars := by
    simp [Operator.chars, Version.text]
  apply parse_of_ofTokens
  rw [hchars, words_of_forall (token_ne_nil _ v) fun _ => isBlank_of_mem_token]
  exact congrArg (· >>= pure) (addToken_chars any .exactly v)

theorem parse_lowerText (b : Bound) : parse (lowerText b) = .ok ⟨some b, none⟩ := by
  apply parse_of_ofTokens
  rw [toList_lowerText, words_of_forall (token_ne_nil _ _) fun _ => isBlank_of_mem_token]
  exact congrArg (· >>= pure) (addToken_lower none b)

theorem parse_upperText (b : Bound) : parse (upperText b) = .ok ⟨none, some b⟩ := by
  apply parse_of_ofTokens
  rw [toList_upperText, words_of_forall (token_ne_nil _ _) fun _ => isBlank_of_mem_token]
  exact congrArg (· >>= pure) (addToken_upper none b)

theorem parse_bothTexts (lo hi : Bound) :
    parse (lowerText lo ++ " " ++ upperText hi) = .ok ⟨some lo, some hi⟩ := by
  have hchars : (lowerText lo ++ " " ++ upperText hi).toList
      = (lowerOperator lo).chars ++ lo.version.chars
        ++ ' ' :: ((upperOperator hi).chars ++ hi.version.chars) := by
    simp [toList_lowerText, toList_upperText]
  apply parse_of_ofTokens
  rw [hchars, words_append (token_ne_nil _ _) (fun _ => isBlank_of_mem_token) rfl,
    words_of_forall (token_ne_nil _ _) fun _ => isBlank_of_mem_token, ofTokens, List.foldlM_cons]
  rw [any, addToken_lower none lo]
  exact congrArg (· >>= pure) (addToken_upper (some lo) hi)

/-- The text of a range is read as that range. -/
theorem parse_text (r : Range) : parse r.text = .ok r := by
  obtain ⟨lower, upper⟩ := r
  cases lower with
  | none =>
    cases upper with
    | none => rfl
    | some hi => exact parse_upperText hi
  | some lo =>
    cases upper with
    | none => exact parse_lowerText lo
    | some hi =>
      simp only [text]
      split
      · -- the exact form stands for two equal inclusive ends
        rename_i hexact
        obtain ⟨v, loInclusive⟩ := lo
        obtain ⟨w, hiInclusive⟩ := hi
        simp only [Bool.and_eq_true, decide_eq_true_eq] at hexact
        obtain ⟨⟨rfl, rfl⟩, rfl⟩ := hexact
        exact parse_exact v
      · exact parse_bothTexts lo hi

end Range

/-! ## Targets -/

theorem Release.read?_text (r : Release) : read? r.text = some r := by
  cases r <;> rfl

theorem toLower_of_isDigit {d : Char} (h : d.isDigit = true) : d.toLower = d := by
  refine dif_neg fun hupper => ?_
  have hge : 65 ≤ d.toNat := UInt32.le_iff_toNat_le.1 hupper.1
  have hd := toNat_of_isDigit h
  omega

theorem Release.read?_of_isDigit {d : Char} (hd : d.isDigit = true) (rest : List Char) :
    read? (String.ofList (d :: rest)) = none := by
  have hne : ∀ c cs, c.isDigit = false →
      String.ofList (d :: rest.map Char.toLower) ≠ String.ofList (c :: cs) := by
    intro c cs hc heq
    obtain ⟨rfl, -⟩ := List.cons.inj (String.ofList_injective heq)
    rw [hd] at hc
    cases hc
  rw [read?, String.toList_ofList, List.map_cons, toLower_of_isDigit hd]
  split
  · rename_i heq
    exact absurd heq (hne 'm' _ rfl)
  · rename_i heq
    exact absurd heq (hne 'm' _ rfl)
  · rename_i heq
    exact absurd heq (hne 'p' _ rfl)
  · rename_i heq
    exact absurd heq (hne 'l' _ rfl)
  · rfl

theorem Target.parse_text (t : Target) : parse t.text = .ok t := by
  cases t with
  | release r => rw [parse, text, Release.read?_text]
  | exact v =>
    obtain ⟨d, rest, hchars, hd⟩ := v.exists_chars_eq_cons
    have hnone : Release.read? v.text = none := by
      rw [Version.text, hchars]
      exact Release.read?_of_isDigit hd rest
    rw [parse, text, hnone, Version.parse, Version.readLenient?_text]
    rfl

/-- **Ranges and targets survive printing.** Every range, with any ends or none, is read back from its
    text, and so is every target. -/
theorem parse_text_of_range_and_target :
    (∀ r : Range, Range.parse r.text = .ok r) ∧ (∀ t : Target, Target.parse t.text = .ok t) :=
  ⟨Range.parse_text, Target.parse_text⟩

end Uplift
