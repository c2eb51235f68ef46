import Uplift.Proofs.Except
import Uplift.Proofs.Glob
import Uplift.Wildcard

set_option autoImplicit false

/-! # Laws of wildcard patterns

An escaped text is a pattern, whatever the text is: each of its special characters stands in a set of its
own (`exists_readFrom_escape`). A slash is no special character, so a text that is escaped as a whole is
escaped component by component (`splitAt_escape`). -/

namespace Uplift.Wildcard

open Text

/-! ## Escaped texts -/

theorem escape_nil : escape [] = [] := rfl

theorem escape_cons (c : Char) (text : List Char) : escape (c :: text)
    = (if c ∈ ['?', '*', '[', ']'] then ['[', c, ']'] else [c]) ++ escape text := rfl

/-- A special character in brackets is read as a set that has only this character. -/
theorem readFrom_bracketed {c : Char} (hc : c ∈ ['?', '*', '[', ']']) (rest : List Char) (n : Nat)
    (before : Option Char) : readFrom ('[' :: c :: ']' :: rest) 0 n before
      = (readFrom rest 0 (n + 3) (some ']')).map (.oneOf false [(c, c)] :: ·) := by
  simp only [List.mem_cons, List.not_mem_nil, or_false] at hc
  rcases hc with rfl | rfl | rfl | rfl <;> rfl

theorem readFrom_plain {c : Char} (hc : c ∉ ['?', '*', '[', ']']) (rest : List Char) (n : Nat)
    (before : Option Char) : readFrom (c :: rest) 0 n before
      = (readFrom rest 0 (n + 1) (some c)).map (.char c :: ·) := by
  simp only [List.mem_cons, List.not_mem_nil, or_false, not_or] at hc
  simp [readFrom, readToken, hc]

/-- **An escaped text can be read** in front of anything that can. -/
theorem exists_readFrom_escape {rest : List Char}
    (hrest : ∀ n before, ∃ ts, readFrom rest 0 n before = .ok ts) (text : List Char) (n : Nat)
    (before : Option Char) : ∃ ts, readFrom (escape text ++ rest) 0 n before = .ok ts := by
  induction text generalizing n before with
  | nil => exact hrest n before
  | cons c text ih =>
    rw [escape_cons]
    split
    · rename_i hc
      obtain ⟨ts, hts⟩ := ih (n + 3) (some ']')
      refine ⟨.oneOf false [(c, c)] :: ts, ?_⟩
      simp only [List.cons_append, List.nil_append]
      rw [readFrom_bracketed hc, hts]
      rfl
    · rename_i hc
      obtain ⟨ts, hts⟩ := ih (n + 1) (some c)
      refine ⟨.char c :: ts, ?_⟩
      simp only [List.cons_append, List.nil_append]
      rw [readFrom_plain hc, hts]
      rfl

theorem exists_tokens_escape (text : List Char) : ∃ ts, tokens (escape text) = .ok ts := by
  have hnil : ∀ n before, ∃ ts, readFrom [] 0 n before = .ok ts := fun _ _ => ⟨[], rfl⟩
  obtain ⟨ts, hts⟩ := exists_readFrom_escape hnil text 0 none
  rw [List.append_nil] at hts
  exact ⟨ts, hts⟩

/-- Escaping keeps components apart. -/
theorem splitAt_escape (text : List Char) :
    splitAt '/' (escape text) = (splitAt '/' text).map escape := by
  induction text with
  | nil => rfl
  | cons c text ih =>
    obtain ⟨piece, pieces, hpieces⟩ := List.exists_cons_of_ne_nil (splitWhere_ne_nil (· == '/') text)
    unfold splitAt at ih ⊢
    rw [hpieces, List.map_cons] at ih
    rw [escape_cons]
    split
    · rename_i hc
      have hslash : (c == '/') = false := by
        rw [beq_eq_false_iff_ne]
        rintro rfl
        revert hc
        decide
      simp [splitWhere, hslash, hpieces, ih, escape_cons, hc]
    · rename_i hc
      by_cases hslash : c = '/'
      · simp [splitWhere, hslash, hpieces, ih, escape_nil]
      · simp [splitWhere, hslash, hpieces, ih, escape_cons, hc]

/-- **An escaped directory and a last component make a pattern**, if the component is one, and the names
    that it lists are those that the component matches. -/
theorem exists_read_escape {component : List Char} {ts : List WildcardToken}
    (hslash : '/' ∉ component) (hts : tokens component = .ok ts)
    (hbelow : ∀ n before, ∃ ts, readFrom ('/' :: component) 0 n before = .ok ts) (dir : List Char) :
    ∃ w, read (String.ofList (escape dir ++ '/' :: component)) = .ok w ∧
      w.components.getLast? = some ts := by
  obtain ⟨whole, hwhole⟩ := exists_readFrom_escape hbelow dir 0 none
  have hpieces : splitAt '/' (escape dir ++ '/' :: component)
      = (splitAt '/' dir).map escape ++ [component] := by
    rw [splitAt_append_cons, splitAt_of_notMem hslash, splitAt_escape]
  -- all components before the last one are escaped texts
  have hfront : ∃ front, ((splitAt '/' dir).map escape).mapM tokens = .ok front := by
    cases hfront : ((splitAt '/' dir).map escape).mapM tokens with
    | ok front => exact ⟨front, rfl⟩
    | error fault =>
      obtain ⟨piece, hpiece, herror⟩ := exists_of_mapM_error hfront
      obtain ⟨text, -, rfl⟩ := List.mem_map.1 hpiece
      obtain ⟨ts, hok⟩ := exists_tokens_escape text
      rw [hok] at herror
      cases herror
  obtain ⟨front, hfront⟩ := hfront
  refine ⟨⟨front ++ [ts]⟩, ?_, List.getLast?_concat⟩
  have hlast : [component].mapM tokens = .ok [ts] := by
    rw [List.mapM_cons, hts]
    rfl
  have hcomponents : (splitAt '/' (escape dir ++ '/' :: component)).mapM tokens
      = .ok (front ++ [ts]) := by
    rw [hpieces, List.mapM_append, hfront, hlast]
    rfl
  have hwhole : tokens (escape dir ++ '/' :: component) = .ok whole := hwhole
  rw [read, String.toList_ofList, hwhole, hcomponents]
  rfl

/-! ## Names -/

theorem accepts_many_iff {ts : List WildcardToken} {cs : List Char} :
    accepts (.many :: ts) cs = true ↔ ∃ front back, cs = front ++ back ∧ accepts ts back = true := by
  simp only [accepts, List.any_eq_true, Glob.mem_suffixes]
  constructor
  · rintro ⟨back, ⟨front, rfl⟩, hback⟩
    exact ⟨front, back, rfl, hback⟩
  · rintro ⟨front, back, rfl, hback⟩
    exact ⟨back, ⟨front, rfl⟩, hback⟩

theorem accepts_char (c : Char) (ts : List WildcardToken) (cs : List Char) :
    accepts (.char c :: ts) (c :: cs) = accepts ts cs := by
  simp [accepts]

/-- The names with two dots are listed by `*.*.*`. -/
theorem accepts_dotted (a b c : List Char) :
    accepts [.many, .char '.', .many, .char '.', .many] (a ++ '.' :: (b ++ '.' :: c)) = true := by
  refine accepts_many_iff.2 ⟨a, _, rfl, ?_⟩
  rw [accepts_char]
  refine accepts_many_iff.2 ⟨b, _, rfl, ?_⟩
  rw [accepts_char]
  exact accepts_many_iff.2 ⟨c, [], (List.append_nil c).symm, rfl⟩

end Uplift.Wildcard
