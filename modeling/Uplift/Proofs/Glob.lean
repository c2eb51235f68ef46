import Mathlib.Data.List.Basic
import Uplift.Proofs.List
import Uplift.Proofs.Text.Bytes

set_option autoImplicit false

/-! # Patterns for a directory and all that is below it

A directory is left out by two patterns. `**/name` matches a path whose last component is the name, and
`**/name/**` one that has the name as another component. So one of the two matches exactly if the name is
among the components of the path (`isMatch_either_iff`). It does not count where in the path it is, and a
component that only starts or ends with the name is another name.

Patterns are matched on bytes. A path is its components with slashes between them, and since no
component has a slash, a text that follows a slash in the path starts at a component
(`intercalate_eq_append_cons`). -/

namespace Uplift

namespace Glob

/-! ## Reading the patterns -/

/-- Whether a character stands for itself in any pattern. -/
def isOrdinary (c : Char) : Bool := !(['?', '*', '[', '{', '}', ',', '\\'].contains c)

theorem readFrom_ordinary {c : Char} (h : isOrdinary c = true) (fuel : Nat) (prev : Option Char)
    (cs : List Char) (r : Reading) :
    readFrom (fuel + 1) prev (c :: cs) r = readFrom fuel (some c) cs (r.push (.literal c)) := by
  rw [readFrom]
  all_goals
    rintro rfl
    cases h

theorem readFrom_append {name : List Char} (h : ∀ c ∈ name, isOrdinary c = true) (fuel : Nat)
    (prev : Option Char) (cs : List Char) (r : Reading) :
    readFrom (fuel + name.length) prev (name ++ cs) r = readFrom fuel (name.getLast?.or prev) cs
      { r with branch := (name.map .literal).reverse ++ r.branch } := by
  induction name generalizing prev r with
  | nil => rfl
  | cons c name ih =>
    obtain ⟨hc, hname⟩ := List.forall_mem_cons.1 h
    have hlast : name.getLast?.or (some c) = ((c :: name).getLast?).or prev := by
      rw [List.getLast?_cons]
      cases name.getLast? <;> rfl
    rw [List.length_cons, ← Nat.add_assoc, List.cons_append, readFrom_ordinary hc, ih hname, hlast]
    simp [Reading.push]

/-- The pattern that is read from `**/name`. -/
def named (name : String) : Glob := ⟨.leading :: name.toList.map .literal⟩

/-- The pattern that is read from `**/name/**`. -/
def belowNamed (name : String) : Glob := ⟨.leading :: (name.toList.map .literal ++ [.trailing])⟩

theorem readFrom_leading (fuel : Nat) (cs : List Char) :
    readFrom (fuel + 1) none ('*' :: '*' :: '/' :: cs) {}
      = readFrom fuel (some '/') cs { branch := [.leading] } := by
  have hshorter : cs.length < ('/' :: cs).length := Nat.lt_succ_self _
  simp only [readFrom, readStars, List.isEmpty_nil, ↓reduceIte, hshorter]
  rfl

theorem read?_named {name : String} (h : ∀ c ∈ name.toList, isOrdinary c = true) :
    read? ("**/" ++ name) = some (named name) := by
  have htext : ("**/" ++ name).toList = '*' :: '*' :: '/' :: name.toList := by
    simp [String.toList_append]
  have hread := readFrom_append h 3 (some '/') [] { branch := [.leading] }
  have hfuel : name.toList.length + 3 = 3 + name.toList.length := Nat.add_comm _ _
  rw [List.append_nil] at hread
  simp only [read?, htext, List.length_cons, readFrom_leading, hfuel, hread]
  simp [readFrom, named]

theorem read?_belowNamed {name : String} (h : ∀ c ∈ name.toList, isOrdinary c = true) :
    read? ("**/" ++ name ++ "/**") = some (belowNamed name) := by
  have htext : ("**/" ++ name ++ "/**").toList
      = '*' :: '*' :: '/' :: ((name.toList ++ ['/']) ++ ['*', '*']) := by
    simp [String.toList_append]
  have hslash : ∀ c ∈ name.toList ++ ['/'], isOrdinary c = true := by
    intro c hc
    rcases List.mem_append.1 hc with hc | hc
    · exact h c hc
    · rw [List.mem_singleton.1 hc]
      rfl
  have hread := readFrom_append hslash 5 (some '/') ['*', '*'] { branch := [.leading] }
  have hfuel : ((name.toList ++ ['/']) ++ ['*', '*']).length + 3
      = 5 + (name.toList ++ ['/']).length := by
    simp
    omega
  simp only [read?, htext, List.length_cons, readFrom_leading, hfuel, hread]
  simp [readFrom, readStars, belowNamed]

/-! ## What they match -/

theorem mem_suffixes {α : Type} {s s' : List α} : s' ∈ suffixes s ↔ ∃ front, s = front ++ s' := by
  induction s with
  | nil => simp [suffixes]
  | cons x xs ih =>
    rw [suffixes, List.mem_cons, ih]
    constructor
    · rintro (rfl | ⟨front, rfl⟩)
      · exact ⟨[], rfl⟩
      · exact ⟨x :: front, rfl⟩
    · rintro ⟨front, hfront⟩
      cases front with
      | nil => exact Or.inl hfront.symm
      | cons y front => exact Or.inr ⟨front, (List.cons.inj hfront).2⟩

theorem mem_afterSlashes {s s' : List UInt8} :
    s' ∈ afterSlashes s ↔ ∃ front, s = front ++ slash :: s' := by
  induction s with
  | nil => simp [afterSlashes]
  | cons b bs ih =>
    rw [afterSlashes]
    split
    · rename_i hb
      rw [List.mem_cons, ih]
      constructor
      · rintro (rfl | ⟨front, rfl⟩)
        · exact ⟨[], by rw [hb]; rfl⟩
        · exact ⟨b :: front, rfl⟩
      · rintro ⟨front, hfront⟩
        cases front with
        | nil => exact Or.inl (List.cons.inj hfront).2.symm
        | cons y front => exact Or.inr ⟨front, (List.cons.inj hfront).2⟩
    · rename_i hb
      rw [ih]
      constructor
      · rintro ⟨front, rfl⟩
        exact ⟨b :: front, rfl⟩
      · rintro ⟨front, hfront⟩
        cases front with
        | nil => exact absurd (List.cons.inj hfront).1 hb
        | cons y front => exact ⟨front, (List.cons.inj hfront).2⟩

theorem accepts_literals {name : List Char} {ts : List GlobToken} {rest : List UInt8 → Bool}
    {s : List UInt8} : accepts (name.map .literal ++ ts) rest s = true ↔
      ∃ s', s = utf8 name ++ s' ∧ accepts ts rest s' = true := by
  induction name generalizing s with
  | nil => simp [utf8]
  | cons c name ih =>
    rw [List.map_cons, List.cons_append, accepts, acceptsToken]
    have hbytes : utf8 (c :: name) = String.utf8EncodeChar c ++ utf8 name := rfl
    cases hfront : (String.utf8EncodeChar c).isPrefixOf? s with
    | none =>
      simp only [Bool.false_eq_true, false_iff]
      rintro ⟨s', rfl, -⟩
      rw [hbytes, List.append_assoc, List.isPrefixOf?_eq_some_iff_append_eq.2 rfl] at hfront
      cases hfront
    | some after =>
      obtain rfl := List.isPrefixOf?_eq_some_iff_append_eq.1 hfront
      simp only [ih, hbytes, List.append_assoc, List.append_cancel_left_eq]

/-- Any directories may be in front, or none. -/
theorem accepts_leading {ts : List GlobToken} {rest : List UInt8 → Bool} {s : List UInt8} :
    accepts (.leading :: ts) rest s = true ↔
      ∃ s', (s' = s ∨ ∃ front, s = front ++ slash :: s') ∧ accepts ts rest s' = true := by
  simp only [accepts, acceptsToken, Bool.or_eq_true, List.any_eq_true, mem_afterSlashes, or_and_right,
    exists_or, exists_eq_left]

theorem accepts_trailing {s : List UInt8} : accepts [.trailing] List.isEmpty s = true ↔
    ∃ below, s = slash :: below := by
  cases s with
  | nil => simp [accepts, acceptsToken]
  | cons b s =>
    have hall : (suffixes s).any List.isEmpty = true :=
      List.any_eq_true.2 ⟨[], mem_suffixes.2 ⟨s, by simp⟩, rfl⟩
    simp only [accepts, acceptsToken, hall]
    simp

/-! ## Components -/

section

variable {name : String} {pieces : List (List Char)}

/-- The names that the patterns are made for: they are not empty, all their characters stand for
    themselves, and they neither have a slash nor end in a dot. -/
structure Nameable (name : String) : Prop where
  nonempty : name.toList ≠ []
  ordinary : ∀ c ∈ name.toList, isOrdinary c = true
  whole : '/' ∉ name.toList
  last : (utf8 name.toList).getLast? ≠ some 46

/-- A text that is a path, or that follows a slash in it, is made of the last components. -/
theorem exists_tail (hpieces : ∀ piece ∈ pieces, '/' ∉ piece) (hne : pieces ≠ []) {s : List UInt8} :
    (s = utf8 (['/'].intercalate pieces) ∨
      ∃ front, utf8 (['/'].intercalate pieces) = front ++ slash :: s) ↔
    ∃ before after, after ≠ [] ∧ pieces = before ++ after ∧
      s = [slash].intercalate (after.map utf8) := by
  have hbytes : ∀ bytes ∈ pieces.map utf8, slash ∉ bytes := by
    intro bytes hmem
    obtain ⟨piece, hpiece, rfl⟩ := List.mem_map.1 hmem
    exact slash_notMem_utf8 (hpieces piece hpiece)
  rw [utf8_intercalate]
  constructor
  · rintro (rfl | ⟨front, hfront⟩)
    · exact ⟨[], pieces, hne, rfl, rfl⟩
    · obtain ⟨before, after, -, hafter, hsplit, -, hright⟩ := intercalate_eq_append_cons hbytes hfront
      obtain ⟨xs, ys, rfl, rfl, rfl⟩ := List.map_eq_append_iff.1 hsplit
      exact ⟨xs, ys, by simpa using hafter, rfl, hright.symm⟩
  · rintro ⟨before, after, hafter, rfl, rfl⟩
    by_cases hbefore : before = []
    · exact Or.inl (by rw [hbefore, List.nil_append])
    · refine Or.inr ⟨[slash].intercalate (before.map utf8), ?_⟩
      rw [List.map_append, intercalate_append (by simpa using hbefore) (by simpa using hafter)]

/-- A pattern that takes any directories in front matches if its rest matches at a component. -/
theorem accepts_at_component (hpieces : ∀ piece ∈ pieces, '/' ∉ piece) (hne : pieces ≠ [])
    {ts : List GlobToken} :
    accepts (.leading :: (name.toList.map .literal ++ ts)) List.isEmpty
        (utf8 (['/'].intercalate pieces)) = true ↔
      ∃ before after s, after ≠ [] ∧ pieces = before ++ after ∧
        [slash].intercalate (after.map utf8) = utf8 name.toList ++ s ∧
        accepts ts List.isEmpty s = true := by
  rw [accepts_leading]
  constructor
  · rintro ⟨s, htail, haccepts⟩
    obtain ⟨before, after, hafter, hsplit, rfl⟩ := (exists_tail hpieces hne).1 htail
    obtain ⟨s', hs', hrest⟩ := accepts_literals.1 haccepts
    exact ⟨before, after, s', hafter, hsplit, hs', hrest⟩
  · rintro ⟨before, after, s, hafter, hsplit, hs, hrest⟩
    exact ⟨_, (exists_tail hpieces hne).2 ⟨before, after, hafter, hsplit, rfl⟩,
      accepts_literals.2 ⟨s, hs, hrest⟩⟩

theorem getLast?_ne_dot (hname : Nameable name) (before : List (List Char)) :
    (utf8 (['/'].intercalate (before ++ [name.toList]))).getLast? ≠ some 46 := by
  have hbytes : utf8 name.toList ≠ [] := by
    intro hnil
    exact hname.nonempty (utf8_injective (hnil.trans (show [] = utf8 [] from rfl)))
  have hend : ∃ front, utf8 (['/'].intercalate (before ++ [name.toList]))
      = front ++ utf8 name.toList := by
    by_cases hbefore : before = []
    · exact ⟨[], by rw [hbefore, List.nil_append, List.intercalate_singleton, List.nil_append]⟩
    · refine ⟨utf8 (['/'].intercalate before ++ ['/']), ?_⟩
      rw [intercalate_append hbefore (List.cons_ne_nil _ []), List.intercalate_singleton,
        ← utf8_append, List.append_assoc, List.singleton_append]
  obtain ⟨front, hfront⟩ := hend
  rw [hfront, List.getLast?_append_of_ne_nil _ hbytes]
  exact hname.last

/-- `**/name` matches a path whose last component is the name. -/
theorem isMatch_named_iff (hname : Nameable name) (hpieces : ∀ piece ∈ pieces, '/' ∉ piece)
    (hne : pieces ≠ []) : (named name).isMatch (utf8 (['/'].intercalate pieces)) = true ↔
      ∃ before, pieces = before ++ [name.toList] := by
  obtain ⟨c, cs, hchars⟩ := List.exists_cons_of_ne_nil hname.nonempty
  have hmatch : ∀ path, (named name).isMatch path =
      (accepts (.leading :: (name.toList.map .literal ++ [])) List.isEmpty path &&
        !(path.getLast? = some 46 && needsFileName (.leading :: name.toList.map .literal))) := by
    intro path
    simp only [isMatch, named, hchars, List.map_cons, List.append_nil]
  rw [hmatch, Bool.and_eq_true, accepts_at_component hpieces hne]
  constructor
  · rintro ⟨⟨before, after, s, hafter, hsplit, hs, hend⟩, -⟩
    obtain rfl : s = [] := List.isEmpty_iff.1 hend
    rw [List.append_nil] at hs
    have hlast := eq_singleton_of_intercalate (by simpa using hafter) (slash_notMem_utf8 hname.whole) hs
    obtain ⟨piece, rfl, hpiece⟩ := List.map_eq_singleton_iff.1 hlast
    exact ⟨before, by rw [hsplit, utf8_injective hpiece]⟩
  · rintro ⟨before, rfl⟩
    refine ⟨⟨before, [name.toList], [], by simp, rfl, by simp, rfl⟩, ?_⟩
    simp [getLast?_ne_dot hname before]

/-- `**/name/**` matches a path that has the name as a component, but not as the last one. -/
theorem isMatch_belowNamed_iff (hname : Nameable name) (hpieces : ∀ piece ∈ pieces, '/' ∉ piece)
    (hne : pieces ≠ []) : (belowNamed name).isMatch (utf8 (['/'].intercalate pieces)) = true ↔
      ∃ before after, after ≠ [] ∧ pieces = before ++ name.toList :: after := by
  obtain ⟨c, cs, hchars⟩ := List.exists_cons_of_ne_nil hname.nonempty
  have hplain : needsFileName (.leading :: (name.toList.map .literal ++ [.trailing])) = false := by
    rw [hchars]
    simp [needsFileName, namesFile, namesExtension, namesEnd, endsInExtension, isLiteral]
  have hmatch : ∀ path, (belowNamed name).isMatch path =
      accepts (.leading :: (name.toList.map .literal ++ [.trailing])) List.isEmpty path := by
    intro path
    rw [hchars] at hplain
    simp only [isMatch, belowNamed, hchars, List.map_cons, List.cons_append] at hplain ⊢
    rw [hplain, Bool.and_false, Bool.not_false, Bool.and_true]
  rw [hmatch, accepts_at_component hpieces hne]
  constructor
  · rintro ⟨before, after, s, hafter, hsplit, hs, hend⟩
    obtain ⟨below, rfl⟩ := accepts_trailing.1 hend
    have hbytes : ∀ bytes ∈ after.map utf8, slash ∉ bytes := by
      intro bytes hmem
      obtain ⟨piece, hpiece, rfl⟩ := List.mem_map.1 hmem
      exact slash_notMem_utf8 (hpieces piece (hsplit ▸ List.mem_append_right _ hpiece))
    obtain ⟨xs, ys, hxs, hys, hcut, hleft, -⟩ := intercalate_eq_append_cons hbytes hs
    have hfirst := eq_singleton_of_intercalate hxs (slash_notMem_utf8 hname.whole) hleft
    rw [hfirst, List.singleton_append] at hcut
    obtain ⟨piece, rest, rfl, hpiece, hrest⟩ := List.map_eq_cons_iff.1 hcut
    refine ⟨before, rest, ?_, by rw [hsplit, utf8_injective hpiece]⟩
    rintro rfl
    exact hys hrest.symm
  · rintro ⟨before, after, hafter, rfl⟩
    refine ⟨before, name.toList :: after, slash :: [slash].intercalate (after.map utf8), by simp, rfl,
      ?_, accepts_trailing.2 ⟨_, rfl⟩⟩
    obtain ⟨next, after, rfl⟩ := List.exists_cons_of_ne_nil hafter
    simp [List.intercalate_cons_cons]

/-- **One of the two patterns matches exactly the paths that have the name as a component.** -/
theorem isMatch_either_iff (hname : Nameable name) (hpieces : ∀ piece ∈ pieces, '/' ∉ piece)
    (hne : pieces ≠ []) :
    ((named name).isMatch (utf8 (['/'].intercalate pieces)) = true ∨
      (belowNamed name).isMatch (utf8 (['/'].intercalate pieces)) = true) ↔
    name.toList ∈ pieces := by
  rw [isMatch_named_iff hname hpieces hne, isMatch_belowNamed_iff hname hpieces hne]
  constructor
  · rintro (⟨before, rfl⟩ | ⟨before, after, -, rfl⟩) <;> simp
  · intro hmem
    obtain ⟨before, after, rfl⟩ := List.append_of_mem hmem
    by_cases hafter : after = []
    · exact Or.inl ⟨before, by rw [hafter]⟩
    · exact Or.inr ⟨before, after, hafter, rfl⟩

end

end Glob

end Uplift
