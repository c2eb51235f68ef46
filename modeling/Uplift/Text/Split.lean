import Uplift.Text.Blank

set_option autoImplicit false

/-! # Splitting texts

The pieces between separators, and the two halves around the first or the last occurrence of a
separator. `splitWhere` always yields at least one piece, and joining the pieces of `splitAt`
with the separator gives the text back. -/

namespace Uplift.Text

/-- The pieces between the characters that satisfy `p`, empty pieces included. -/
def splitWhere (p : Char → Bool) : List Char → List (List Char)
  | [] => [[]]
  | c :: cs =>
    if p c then [] :: splitWhere p cs
    else match splitWhere p cs with
      | [] => [[c]]
      | w :: ws => (c :: w) :: ws

/-- The pieces between the occurrences of `d`, empty pieces included. -/
def splitAt (d : Char) (cs : List Char) : List (List Char) := splitWhere (· == d) cs

/-- The words of a text: its maximal blank-free runs. -/
def words (cs : List Char) : List (List Char) := (splitWhere isBlank cs).filter (· ≠ [])

/-- What stands before and after the first `d`, if there is one. -/
def splitFirst (d : Char) : List Char → Option (List Char × List Char)
  | [] => none
  | c :: cs =>
    if c = d then some ([], cs)
    else (splitFirst d cs).map fun (a, b) => (c :: a, b)

/-- What stands before and after the last `d`, if there is one. -/
def splitLast (d : Char) : List Char → Option (List Char × List Char)
  | [] => none
  | c :: cs =>
    match splitLast d cs with
    | some (a, b) => some (c :: a, b)
    | none => if c = d then some ([], cs) else none

/-- The text after `p` when the text starts with `p`. -/
def dropPrefix? : List Char → List Char → Option (List Char)
  | [], cs => some cs
  | _ :: _, [] => none
  | p :: ps, c :: cs => if p = c then dropPrefix? ps cs else none

/-- The pieces written one after the other with `sep` between them. -/
def joined (sep : String) (pieces : List String) : String :=
  String.intercalate sep pieces

/-! ## Laws -/

theorem splitWhere_ne_nil (p : Char → Bool) (cs : List Char) : splitWhere p cs ≠ [] := by
  induction cs with
  | nil => simp [splitWhere]
  | cons c cs ih =>
    rw [splitWhere]
    split
    · simp
    · split <;> simp

theorem of_mem_splitWhere {p : Char → Bool} {cs piece : List Char} (h : piece ∈ splitWhere p cs) :
    ∀ c ∈ piece, p c = false := by
  induction cs generalizing piece with
  | nil =>
    obtain rfl : piece = [] := by simpa [splitWhere] using h
    simp
  | cons d cs ih =>
    rw [splitWhere] at h
    split at h
    · obtain rfl | hrest := List.mem_cons.1 h
      · simp
      · exact ih hrest
    · rename_i hd
      split at h
      · rename_i hnil
        exact absurd hnil (splitWhere_ne_nil p cs)
      · rename_i first rest hsplit
        rw [hsplit] at ih
        obtain rfl | hrest := List.mem_cons.1 h
        · simp only [List.mem_cons, forall_eq_or_imp]
          exact ⟨Bool.eq_false_iff.2 hd, ih List.mem_cons_self⟩
        · exact ih (List.mem_cons_of_mem first hrest)

/-- The pieces with the separator between them are the text. -/
theorem intercalate_splitAt (d : Char) (cs : List Char) :
    [d].intercalate (splitAt d cs) = cs := by
  rw [splitAt]
  induction cs with
  | nil => simp [splitWhere]
  | cons c cs ih =>
    rw [splitWhere]
    have hne := splitWhere_ne_nil (· == d) cs
    cases hs : splitWhere (· == d) cs with
    | nil => exact absurd hs hne
    | cons w ws =>
      rw [hs] at ih
      split
      · rename_i hc
        have hc : c = d := by simpa using hc
        rw [List.intercalate_cons_cons, ih, hc]
        rfl
      · cases ws with
        | nil => simpa using ih
        | cons v vs =>
          simp only [List.intercalate_cons_cons] at ih ⊢
          rw [← ih]
          rfl

theorem dropPrefix?_append (p cs : List Char) : dropPrefix? p (p ++ cs) = some cs := by
  induction p with
  | nil => simp [dropPrefix?]
  | cons c p ih => simp [dropPrefix?, ih]

theorem dropPrefix?_of_ne {c d : Char} (h : c ≠ d) (p cs : List Char) :
    dropPrefix? (c :: p) (d :: cs) = none := by
  simp [dropPrefix?, h]

/-- A text starts with `p` exactly if it is `p` and a rest. -/
theorem dropPrefix?_eq_some_iff {p cs rest : List Char} :
    dropPrefix? p cs = some rest ↔ cs = p ++ rest := by
  constructor
  · intro h
    induction p generalizing cs with
    | nil => simpa [dropPrefix?] using h
    | cons c p ih =>
      cases cs with
      | nil => cases h
      | cons d cs =>
        rw [dropPrefix?] at h
        split at h
        · rename_i heq
          rw [heq, List.cons_append, ← ih h]
        · cases h
  · rintro rfl
    exact dropPrefix?_append p rest

theorem dropPrefix?_eq_none_iff {p cs : List Char} : dropPrefix? p cs = none ↔ ¬ p <+: cs := by
  constructor
  · rintro hnone ⟨rest, rfl⟩
    rw [dropPrefix?_append] at hnone
    cases hnone
  · intro hprefix
    rw [Option.eq_none_iff_forall_ne_some]
    intro rest hsome
    exact hprefix ⟨rest, (dropPrefix?_eq_some_iff.1 hsome).symm⟩

theorem splitFirst_eq_some {d : Char} {cs a b : List Char} (h : splitFirst d cs = some (a, b)) :
    cs = a ++ d :: b ∧ d ∉ a := by
  induction cs generalizing a with
  | nil => simp [splitFirst] at h
  | cons c cs ih =>
    rw [splitFirst] at h
    split at h
    · simp_all
    · rename_i hc
      simp only [Option.map_eq_some_iff, Prod.exists, Prod.mk.injEq] at h
      obtain ⟨a', b', h', rfl, rfl⟩ := h
      obtain ⟨rfl, hd⟩ := ih h'
      simp_all [eq_comm]

theorem splitFirst_append {d : Char} {a : List Char} (h : d ∉ a) (b : List Char) :
    splitFirst d (a ++ d :: b) = some (a, b) := by
  induction a with
  | nil => simp [splitFirst]
  | cons c a ih =>
    simp only [List.mem_cons, not_or] at h
    simp [splitFirst, Ne.symm h.1, ih h.2]

theorem splitFirst_eq_none {d : Char} {cs : List Char} : splitFirst d cs = none ↔ d ∉ cs := by
  induction cs with
  | nil => simp [splitFirst]
  | cons c cs ih =>
    rw [splitFirst]
    split
    · rename_i hc
      simp [hc]
    · rename_i hc
      simp [ih, Ne.symm hc]

theorem splitLast_eq_none {d : Char} {cs : List Char} : splitLast d cs = none ↔ d ∉ cs := by
  induction cs with
  | nil => simp [splitLast]
  | cons c cs ih =>
    rw [splitLast]
    cases h : splitLast d cs with
    | none =>
      have hd := ih.mp h
      by_cases hc : c = d
      · simp [hc]
      · simp [hc, Ne.symm hc, hd]
    | some ab =>
      have hd : d ∈ cs := by
        by_cases hd : d ∈ cs
        · exact hd
        · rw [ih.mpr hd] at h
          cases h
      simp [hd]

theorem splitLast_eq_some {d : Char} {cs a b : List Char} (h : splitLast d cs = some (a, b)) :
    cs = a ++ d :: b ∧ d ∉ b := by
  induction cs generalizing a with
  | nil => cases h
  | cons c cs ih =>
    rw [splitLast] at h
    split at h
    · rename_i a' b' h'
      obtain ⟨rfl, rfl⟩ : c :: a' = a ∧ b' = b := by simpa using h
      obtain ⟨rfl, hd⟩ := ih h'
      exact ⟨rfl, hd⟩
    · rename_i hnone
      split at h
      · rename_i hc
        obtain ⟨rfl, rfl⟩ : [] = a ∧ cs = b := by simpa using h
        exact ⟨by rw [hc]; rfl, splitLast_eq_none.1 hnone⟩
      · cases h

theorem splitLast_append {d : Char} {b : List Char} (h : d ∉ b) (a : List Char) :
    splitLast d (a ++ d :: b) = some (a, b) := by
  induction a with
  | nil => simp [splitLast, splitLast_eq_none.2 h]
  | cons c a ih => simp [splitLast, ih]

theorem splitWhere_append_cons {p : Char → Bool} (as : List Char) {d : Char} (hd : p d = true)
    (bs : List Char) : splitWhere p (as ++ d :: bs) = splitWhere p as ++ splitWhere p bs := by
  induction as with
  | nil => simp [splitWhere, hd]
  | cons c as ih =>
    rw [List.cons_append, splitWhere, splitWhere, ih]
    split
    · rfl
    · cases h : splitWhere p as with
      | nil => exact absurd h (splitWhere_ne_nil p as)
      | cons w ws => rfl

theorem splitWhere_of_forall {p : Char → Bool} {piece : List Char} (h : ∀ c ∈ piece, p c = false) :
    splitWhere p piece = [piece] := by
  induction piece with
  | nil => rfl
  | cons c piece ih =>
    simp only [List.mem_cons, forall_eq_or_imp] at h
    rw [splitWhere, ih h.2]
    simp [h.1]

theorem splitAt_append_cons (d : Char) (as bs : List Char) :
    splitAt d (as ++ d :: bs) = splitAt d as ++ splitAt d bs :=
  splitWhere_append_cons (p := (· == d)) as (beq_self_eq_true d) bs

theorem splitAt_of_notMem {d : Char} {piece : List Char} (h : d ∉ piece) :
    splitAt d piece = [piece] :=
  splitWhere_of_forall fun _ hc => beq_eq_false_iff_ne.2 fun hcd => h (hcd ▸ hc)

theorem splitAt_append {d : Char} {piece : List Char} (h : d ∉ piece) (cs : List Char) :
    splitAt d (piece ++ d :: cs) = piece :: splitAt d cs := by
  rw [splitAt_append_cons, splitAt_of_notMem h]
  rfl

theorem words_append {word : List Char} (hne : word ≠ []) (h : ∀ c ∈ word, isBlank c = false)
    {d : Char} (hd : isBlank d = true) (cs : List Char) :
    words (word ++ d :: cs) = word :: words cs := by
  simp [words, splitWhere_append_cons word hd, splitWhere_of_forall h, hne]

theorem words_of_forall {word : List Char} (hne : word ≠ []) (h : ∀ c ∈ word, isBlank c = false) :
    words word = [word] := by
  simp [words, splitWhere_of_forall h, hne]

theorem notMem_intercalate {c : Char} {sep : List Char} {pieces : List (List Char)} (hsep : c ∉ sep)
    (h : ∀ piece ∈ pieces, c ∉ piece) : c ∉ sep.intercalate pieces := by
  induction pieces with
  | nil => simp
  | cons piece rest ih =>
    simp only [List.mem_cons, forall_eq_or_imp] at h
    cases rest with
    | nil => simpa using h.1
    | cons next rest =>
      rw [List.intercalate_cons_cons]
      simp [h.1, hsep, ih h.2]

/-- Pieces that were joined with the separator are found again. -/
theorem splitAt_intercalate {d : Char} {pieces : List (List Char)} (hne : pieces ≠ [])
    (h : ∀ piece ∈ pieces, d ∉ piece) : splitAt d ([d].intercalate pieces) = pieces := by
  induction pieces with
  | nil => exact absurd rfl hne
  | cons piece rest ih =>
    simp only [List.mem_cons, forall_eq_or_imp] at h
    cases rest with
    | nil => simpa using splitAt_of_notMem h.1
    | cons next rest =>
      rw [List.intercalate_cons_cons, List.append_assoc, List.singleton_append,
        splitAt_append h.1, ih (by simp) h.2]

theorem length_splitAt (d : Char) (cs : List Char) :
    (splitAt d cs).length = cs.count d + 1 := by
  rw [splitAt]
  induction cs with
  | nil => rfl
  | cons c cs ih =>
    rw [splitWhere]
    split
    · rename_i hc
      simp [ih, beq_iff_eq.1 hc]
    · rename_i hc
      rw [List.count_cons_of_ne (by simpa using hc), ← ih]
      split
      · rename_i hnil
        exact absurd hnil (splitWhere_ne_nil _ cs)
      · rename_i hsplit
        simp [hsplit]

/-- Pieces that all end in the separator are found again, with nothing behind them. -/
theorem splitAt_flatMap {d : Char} {pieces : List (List Char)} (h : ∀ piece ∈ pieces, d ∉ piece) :
    splitAt d (pieces.flatMap (· ++ [d])) = pieces ++ [[]] := by
  induction pieces with
  | nil => rfl
  | cons piece pieces ih =>
    simp only [List.mem_cons, forall_eq_or_imp] at h
    rw [List.flatMap_cons, List.append_assoc, List.singleton_append, splitAt_append h.1, ih h.2]
    rfl

theorem toList_joined (sep : String) (pieces : List String) :
    (joined sep pieces).toList = sep.toList.intercalate (pieces.map String.toList) := by
  rw [joined, String.toList_intercalate]

end Uplift.Text
