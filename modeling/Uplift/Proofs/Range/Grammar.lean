import Mathlib.Data.List.Forall2
import Mathlib.Data.List.Perm.Basic
import Mathlib.Tactic.MkIffOfInductiveProp
import Uplift.Proofs.List
import Uplift.Proofs.Range
import Uplift.Proofs.Range.Text

set_option autoImplicit false

/-! # The grammar of ranges

A range text is a list of comparators, each an operator and a version, in any order. Reading goes through
them from left to right with two slots to fill, and the faults that it finds depend on which comes first.
What it accepts does not. A comparator brings a lower end, an upper end or, if it is exact, both, and
`Gathers` says that a range has just the ends that it had before and those that were brought. A slot takes
one end, so this is possible exactly when no two comparators bring an end of the same kind: an exact one
then stands alone (`compatible_iff`). -/

namespace Uplift

open Text Version

theorem Version.parse_eq_ok_iff {s : String} {v : Version} :
    Version.parse s = .ok v ↔ readLenient? s = some v := by
  unfold Version.parse
  cases readLenient? s <;> simp

namespace Range

/-! ## Comparators -/

/-- What a token says: the operator and the version after it. -/
structure Comparator where
  operator : Operator
  version : Version
  deriving DecidableEq, Repr

namespace Operator

/-- The operators `>` and `>=`. -/
def isLower : Operator → Bool
  | .above | .atLeast => true
  | _ => false

/-- The operators `<` and `<=`. -/
def isUpper : Operator → Bool
  | .below | .atMost => true
  | _ => false

end Operator

namespace Comparator

/-- A comparator is written as its operator and a text that is read as its version. An exact one may do
    without the operator. -/
inductive Written : Comparator → List Char → Prop
  | withOperator {op : Operator} {v : Version} {rest : List Char}
      (hread : Version.parse (String.ofList rest) = .ok v) : Written ⟨op, v⟩ (op.chars ++ rest)
  | bare {v : Version} {rest : List Char}
      (hread : Version.parse (String.ofList rest) = .ok v) : Written ⟨.exactly, v⟩ rest

/-- Whether a version satisfies a comparator, by precedence. -/
def Admits (c : Comparator) (v : Version) : Prop :=
  match c.operator with
  | .atLeast => (c.version.precedence v).isLE = true
  | .above => c.version.precedence v = .lt
  | .atMost => (v.precedence c.version).isLE = true
  | .below => v.precedence c.version = .lt
  | .exactly => v.precedence c.version = .eq

/-- The comparators of one range: an exact one, or at most one lower and at most one upper. -/
def Compatible (cs : List Comparator) : Prop :=
  (∃ c, cs = [c] ∧ c.operator = .exactly) ∨
    (∀ c ∈ cs, c.operator ≠ .exactly) ∧
      cs.countP (·.operator.isLower) ≤ 1 ∧ cs.countP (·.operator.isUpper) ≤ 1

/-- The lower end that a comparator brings. -/
def lower? (c : Comparator) : Option Bound :=
  match c.operator with
  | .atLeast | .exactly => some ⟨c.version, true⟩
  | .above => some ⟨c.version, false⟩
  | .atMost | .below => none

/-- The upper end that a comparator brings. -/
def upper? (c : Comparator) : Option Bound :=
  match c.operator with
  | .atMost | .exactly => some ⟨c.version, true⟩
  | .below => some ⟨c.version, false⟩
  | .atLeast | .above => none

theorem isSome_lower?_or_upper? (c : Comparator) : c.lower?.isSome = true ∨ c.upper?.isSome = true := by
  obtain ⟨op, v⟩ := c
  cases op <;> simp [lower?, upper?]

theorem isSome_lower?_iff {c : Comparator} :
    c.lower?.isSome = true ↔ c.operator.isLower = true ∨ c.operator = .exactly := by
  obtain ⟨op, v⟩ := c
  cases op <;> simp [lower?, Operator.isLower]

theorem isSome_upper?_iff {c : Comparator} :
    c.upper?.isSome = true ↔ c.operator.isUpper = true ∨ c.operator = .exactly := by
  obtain ⟨op, v⟩ := c
  cases op <;> simp [upper?, Operator.isUpper]

/-- A version satisfies a comparator if it meets the ends that the comparator brings. -/
theorem admits_iff {c : Comparator} {v : Version} : c.Admits v ↔
    c.lower?.all (meetsLower · v) = true ∧ c.upper?.all (meetsUpper · v) = true := by
  obtain ⟨op, w⟩ := c
  cases op with
  | atLeast => simp [Admits, lower?, upper?, meetsLower_inclusive]
  | above => simp [Admits, lower?, upper?, meetsLower_exclusive]
  | atMost => simp [Admits, lower?, upper?, meetsUpper_inclusive]
  | below => simp [Admits, lower?, upper?, meetsUpper_exclusive]
  | exactly =>
    simp only [Admits, lower?, upper?, Option.all_some, meetsLower, meetsUpper]
    cases v.precedence w <;> simp

instance (c : Comparator) (v : Version) : Decidable (c.Admits v) :=
  decidable_of_iff _ admits_iff.symm

/-- Every comparator brings an end. -/
theorem eq_nil_of_countP {cs : List Comparator} (hlower : cs.countP (·.lower?.isSome) = 0)
    (hupper : cs.countP (·.upper?.isSome) = 0) : cs = [] := by
  rw [List.countP_eq_zero] at hlower hupper
  refine List.eq_nil_iff_forall_not_mem.2 fun c hc => ?_
  rcases c.isSome_lower?_or_upper? with h | h
  · exact hlower c hc h
  · exact hupper c hc h

/-- An exact comparator fills both slots, and every other one would need one of them. -/
theorem eq_singleton_of_exactly {cs : List Comparator} {c : Comparator} (hmem : c ∈ cs)
    (hexact : c.operator = .exactly) (hlower : cs.countP (·.lower?.isSome) ≤ 1)
    (hupper : cs.countP (·.upper?.isSome) ≤ 1) : cs = [c] := by
  obtain ⟨before, after, rfl⟩ := List.append_of_mem hmem
  have hlo : c.lower?.isSome = true := isSome_lower?_iff.2 (.inr hexact)
  have hhi : c.upper?.isSome = true := isSome_upper?_iff.2 (.inr hexact)
  simp only [List.countP_append, List.countP_cons, hlo, hhi, if_true] at hlower hupper
  have hbefore : before = [] := eq_nil_of_countP (by omega) (by omega)
  have hafter : after = [] := eq_nil_of_countP (by omega) (by omega)
  rw [hbefore, hafter]
  rfl

/-- Comparators go together exactly when no two of them bring an end of the same kind. -/
theorem compatible_iff {cs : List Comparator} : Compatible cs ↔
    (cs.filterMap lower?).length ≤ 1 ∧ (cs.filterMap upper?).length ≤ 1 := by
  simp only [List.length_filterMap_eq_countP]
  by_cases hexact : ∀ c ∈ cs, c.operator ≠ .exactly
  · -- without an exact one, lower and upper comparators are counted apart
    have hlower : cs.countP (·.lower?.isSome) = cs.countP (·.operator.isLower) :=
      List.countP_congr fun c hc => by simp [isSome_lower?_iff, hexact c hc]
    have hupper : cs.countP (·.upper?.isSome) = cs.countP (·.operator.isUpper) :=
      List.countP_congr fun c hc => by simp [isSome_upper?_iff, hexact c hc]
    rw [hlower, hupper]
    constructor
    · rintro (⟨c, rfl, hc⟩ | ⟨-, hcounts⟩)
      · exact absurd hc (hexact c List.mem_cons_self)
      · exact hcounts
    · intro hcounts
      exact .inr ⟨hexact, hcounts⟩
  · obtain ⟨c, hmem, hc⟩ : ∃ c ∈ cs, c.operator = .exactly := by simpa using hexact
    constructor
    · rintro (⟨d, rfl, -⟩ | ⟨hnone, -⟩)
      · exact ⟨List.countP_le_length, List.countP_le_length⟩
      · exact absurd hc (hnone c hmem)
    · rintro ⟨hlower, hupper⟩
      exact .inl ⟨c, eq_singleton_of_exactly hmem hc hlower hupper, hc⟩

instance (cs : List Comparator) : Decidable (Compatible cs) :=
  decidable_of_iff _ compatible_iff.symm

example : Compatible [⟨.below, .release 2 0 0⟩, ⟨.atLeast, .release 1 0 0⟩] ∧
    ¬ Compatible [⟨.below, .release 2 0 0⟩, ⟨.exactly, .release 1 0 0⟩] := by decide

end Comparator

/-! ## Tokens -/

theorem operatorOf_bare {rest : List Char} {v : Version}
    (hread : Version.readLenient? (String.ofList rest) = some v) :
    operatorOf rest = (.exactly, rest) := by
  cases rest with
  | nil => rfl
  | cons d rest =>
    obtain ⟨heq, hlt, hgt⟩ := head_ne_of_readLenient? hread
    unfold operatorOf
    split <;> simp_all

/-- A token is its operator and the text after it, or has no operator. -/
theorem operatorOf_cases (token : List Char) :
    token = (operatorOf token).1.chars ++ (operatorOf token).2 ∨
      operatorOf token = (.exactly, token) := by
  unfold operatorOf
  split <;> simp [Operator.chars]

/-- A token is written in one way at most, the one in which it is read. -/
theorem Comparator.written_iff {c : Comparator} {token : List Char} : c.Written token ↔
    c.operator = (operatorOf token).1 ∧
      Version.readLenient? (String.ofList (operatorOf token).2) = some c.version := by
  constructor
  · rintro (hread | hread)
    · rw [Version.parse_eq_ok_iff] at hread
      rw [operatorOf_append _ hread]
      exact ⟨rfl, hread⟩
    · rw [Version.parse_eq_ok_iff] at hread
      rw [operatorOf_bare hread]
      exact ⟨rfl, hread⟩
  · obtain ⟨op, v⟩ := c
    rintro ⟨rfl, hread⟩
    rw [← Version.parse_eq_ok_iff] at hread
    rcases operatorOf_cases token with htoken | htoken
    · have hwritten : Written ⟨(operatorOf token).1, v⟩
          ((operatorOf token).1.chars ++ (operatorOf token).2) := .withOperator hread
      rwa [← htoken] at hwritten
    · rw [htoken] at hread ⊢
      exact .bare hread

theorem Comparator.Written.unique {c d : Comparator} {token : List Char} (hc : c.Written token)
    (hd : d.Written token) : c = d := by
  obtain ⟨op, v⟩ := c
  obtain ⟨op', v'⟩ := d
  obtain ⟨rfl, hread⟩ := Comparator.written_iff.1 hc
  obtain ⟨rfl, hread'⟩ := Comparator.written_iff.1 hd
  simpa [hread] using hread'

/-- The tokens `*` and `x` say nothing. -/
def isWildcard (token : List Char) : Bool := token = ['*'] || token = ['x']

/-- The tokens of a range text that say something. -/
def tokens (input : String) : List (List Char) := (words input.toList).filter (!isWildcard ·)

theorem addToken_of_isWildcard (r : Range) {token : List Char} (h : isWildcard token = true) :
    addToken r token = .ok r := by
  rw [addToken, if_pos (by simpa [isWildcard] using h)]

/-- Any other token has to be a comparator, and narrows the range by it. -/
theorem addToken_eq_ok_iff {r r' : Range} {token : List Char} (h : isWildcard token = false) :
    addToken r token = .ok r' ↔
      ∃ c : Comparator, c.Written token ∧ narrow r c.operator c.version = .ok r' := by
  rw [addToken_eq r (by simpa [isWildcard] using h)]
  constructor
  · intro hok
    split at hok
    · cases hok
    · rename_i v hread
      exact ⟨⟨_, v⟩, Comparator.written_iff.2 ⟨rfl, hread⟩, hok⟩
  · rintro ⟨c, hwritten, hok⟩
    obtain ⟨hop, hread⟩ := Comparator.written_iff.1 hwritten
    rw [hread, ← hop]
    exact hok

/-! ## Filling the slots -/

/-- The range `r'` has the ends of `r` and those that the comparators bring, one of a kind. -/
@[mk_iff]
structure Gathers (r : Range) (cs : List Comparator) (r' : Range) : Prop where
  lower : r.lower.toList ++ cs.filterMap Comparator.lower? = r'.lower.toList
  upper : r.upper.toList ++ cs.filterMap Comparator.upper? = r'.upper.toList

theorem gathers_singleton_iff {r r' : Range} {c : Comparator} : Gathers r [c] r' ↔
    ((r.lower = none ∨ c.lower? = none) ∧ r.lower.or c.lower? = r'.lower) ∧
      ((r.upper = none ∨ c.upper? = none) ∧ r.upper.or c.upper? = r'.upper) := by
  have hends : ∀ f : Comparator → Option Bound, [c].filterMap f = (f c).toList := by
    intro f
    cases h : f c <;> simp [h]
  rw [gathers_iff, hends, hends, toList_append_eq_iff, toList_append_eq_iff]

/-- A step fills the slots that a comparator needs, and fails if one is taken. -/
theorem narrow_eq_ok_iff {r r' : Range} {c : Comparator} :
    narrow r c.operator c.version = .ok r' ↔ Gathers r [c] r' := by
  rw [gathers_singleton_iff]
  obtain ⟨lo, hi⟩ := r
  obtain ⟨lo', hi'⟩ := r'
  obtain ⟨op, v⟩ := c
  -- an operator only asks which of the two slots are taken
  cases op <;> cases lo <;> cases hi <;>
    simp [narrow, fill, Except.map, exact, Comparator.lower?, Comparator.upper?]

theorem gathers_nil_iff {r r' : Range} : Gathers r [] r' ↔ r = r' := by
  constructor
  · rintro ⟨hlower, hupper⟩
    have hlower : r.lower = r'.lower := eq_of_toList_eq (by simpa using hlower)
    have hupper : r.upper = r'.upper := eq_of_toList_eq (by simpa using hupper)
    cases r
    cases r'
    simp_all
  · rintro rfl
    exact ⟨List.append_nil _, List.append_nil _⟩

theorem gathers_cons_iff {r r' : Range} {c : Comparator} {cs : List Comparator} :
    Gathers r (c :: cs) r' ↔ ∃ mid, Gathers r [c] mid ∧ Gathers mid cs r' := by
  have hends : ∀ f : Comparator → Option Bound,
      (c :: cs).filterMap f = [c].filterMap f ++ cs.filterMap f :=
    fun f => (List.filterMap_append : ([c] ++ cs).filterMap f = _)
  constructor
  · rintro ⟨hlower, hupper⟩
    rw [hends, ← List.append_assoc] at hlower hupper
    obtain ⟨lo, hlo⟩ := exists_of_append_eq_toList hlower
    obtain ⟨hi, hhi⟩ := exists_of_append_eq_toList hupper
    rw [hlo] at hlower
    rw [hhi] at hupper
    exact ⟨⟨lo, hi⟩, ⟨hlo, hhi⟩, ⟨hlower, hupper⟩⟩
  · rintro ⟨mid, ⟨hlo, hhi⟩, ⟨hlower, hupper⟩⟩
    constructor
    · rw [hends, ← List.append_assoc, hlo, hlower]
    · rw [hends, ← List.append_assoc, hhi, hupper]

/-- Reading from left to right gathers the ends of all the comparators. -/
theorem foldlM_addToken_eq_ok_iff {ts : List (List Char)} {r r' : Range} :
    ts.foldlM addToken r = .ok r' ↔
      ∃ cs, List.Forall₂ Comparator.Written cs (ts.filter (!isWildcard ·)) ∧ Gathers r cs r' := by
  induction ts generalizing r with
  | nil => simp [gathers_nil_iff, pure, Except.pure]
  | cons t ts ih =>
    rw [List.foldlM_cons]
    cases hwild : isWildcard t with
    | true =>
      rw [addToken_of_isWildcard r hwild, List.filter_cons_of_neg (by simp [hwild])]
      exact ih
    | false =>
      rw [List.filter_cons_of_pos (by simp [hwild])]
      constructor
      · intro hok
        cases hstep : addToken r t with
        | error e =>
          rw [hstep] at hok
          cases hok
        | ok mid =>
          rw [hstep] at hok
          obtain ⟨c, hwritten, hnarrow⟩ := (addToken_eq_ok_iff hwild).1 hstep
          obtain ⟨cs, hall, hgathers⟩ := ih.1 hok
          exact ⟨c :: cs, .cons hwritten hall,
            gathers_cons_iff.2 ⟨mid, narrow_eq_ok_iff.1 hnarrow, hgathers⟩⟩
      · rintro ⟨_, hall, hgathers⟩
        obtain ⟨c, cs, hwritten, hrest, rfl⟩ := List.forall₂_cons_right_iff.1 hall
        obtain ⟨mid, hfirst, hgathers⟩ := gathers_cons_iff.1 hgathers
        rw [(addToken_eq_ok_iff hwild).2 ⟨c, hwritten, narrow_eq_ok_iff.2 hfirst⟩]
        exact ih.2 ⟨cs, hrest, hgathers⟩

theorem parse_eq_ok_iff_gathers {input : String} {r : Range} : parse input = .ok r ↔
    ∃ cs, List.Forall₂ Comparator.Written cs (tokens input) ∧ Gathers any cs r := by
  have hfold : parse input = .ok r ↔ (words input.toList).foldlM addToken any = .ok r := by
    unfold parse ofTokens
    cases (words input.toList).foldlM addToken any <;> simp
  rw [hfold, foldlM_addToken_eq_ok_iff]
  rfl

/-! ## What is gathered -/

variable {cs : List Comparator} {r : Range}

/-- All ends fit into the slots exactly when the comparators go together. -/
theorem exists_gathers_iff : (∃ r, Gathers any cs r) ↔ Comparator.Compatible cs := by
  rw [Comparator.compatible_iff, ← exists_eq_toList_iff, ← exists_eq_toList_iff]
  constructor
  · rintro ⟨r, hlower, hupper⟩
    exact ⟨⟨r.lower, hlower⟩, ⟨r.upper, hupper⟩⟩
  · rintro ⟨⟨lo, hlower⟩, ⟨hi, hupper⟩⟩
    exact ⟨⟨lo, hi⟩, ⟨hlower, hupper⟩⟩

/-- The range is the intersection of what the comparators admit. -/
theorem Gathers.contains_iff (h : Gathers any cs r) (v : Version) :
    r.contains v = true ↔ ∀ c ∈ cs, c.Admits v := by
  rw [contains, Bool.and_eq_true, all_iff_of_filterMap h.lower, all_iff_of_filterMap h.upper]
  simp only [Comparator.admits_iff]
  constructor
  · rintro ⟨hlower, hupper⟩ c hc
    exact ⟨hlower c hc, hupper c hc⟩
  · intro hall
    exact ⟨fun c hc => (hall c hc).1, fun c hc => (hall c hc).2⟩

theorem Gathers.perm {cs' : List Comparator} (h : Gathers any cs r) (hperm : cs.Perm cs') :
    Gathers any cs' r :=
  ⟨eq_toList_of_perm h.lower (hperm.filterMap _), eq_toList_of_perm h.upper (hperm.filterMap _)⟩

/-- Nor does the order of the tokens. -/
theorem parse_of_perm {input input' : String} (hperm : (tokens input).Perm (tokens input'))
    (h : parse input = .ok r) : parse input' = .ok r := by
  obtain ⟨cs, hwritten, hgathers⟩ := parse_eq_ok_iff_gathers.1 h
  have hshuffled : Relation.Comp List.Perm (List.Forall₂ Comparator.Written) cs (tokens input') := by
    rw [← List.forall₂_comp_perm_eq_perm_comp_forall₂]
    exact ⟨tokens input, hwritten, hperm⟩
  obtain ⟨cs', hcs, hwritten'⟩ := hshuffled
  exact parse_eq_ok_iff_gathers.2 ⟨cs', hwritten', hgathers.perm hcs⟩

/-- **A range text is accepted exactly if it is in the grammar, and stands for an intersection.** Take the
    tokens of a text that say something. The text is read as a range exactly when each of them is a
    comparator, and there is one that is exact and no other, or none is exact, at most one is a lower and
    at most one an upper one. The range then contains the versions that satisfy, by precedence, every
    comparator. Texts whose tokens are permuted are read as the same range, or neither is read. -/
theorem parse_accepts_grammar (input : String) :
    ((∃ r, parse input = .ok r) ↔
      ∃ cs, List.Forall₂ Comparator.Written cs (tokens input) ∧ Comparator.Compatible cs) ∧
    (∀ r cs, parse input = .ok r → List.Forall₂ Comparator.Written cs (tokens input) →
      ∀ v, r.contains v = true ↔ ∀ c ∈ cs, c.Admits v) ∧
    (∀ input', (tokens input).Perm (tokens input') →
      ∀ r, parse input = .ok r ↔ parse input' = .ok r) := by
  refine ⟨⟨?_, ?_⟩, ?_, ?_⟩
  · rintro ⟨r, hok⟩
    obtain ⟨cs, hwritten, hgathers⟩ := parse_eq_ok_iff_gathers.1 hok
    exact ⟨cs, hwritten, exists_gathers_iff.1 ⟨r, hgathers⟩⟩
  · rintro ⟨cs, hwritten, hcompatible⟩
    obtain ⟨r, hgathers⟩ := exists_gathers_iff.2 hcompatible
    exact ⟨r, parse_eq_ok_iff_gathers.2 ⟨cs, hwritten, hgathers⟩⟩
  · intro r cs hok hwritten v
    obtain ⟨cs', hwritten', hgathers⟩ := parse_eq_ok_iff_gathers.1 hok
    have hunique : Relator.LeftUnique Comparator.Written := fun _ _ _ => Comparator.Written.unique
    obtain rfl : cs' = cs := List.left_unique_forall₂' hunique hwritten' hwritten
    exact hgathers.contains_iff v
  · intro input' hperm r
    exact ⟨parse_of_perm hperm, parse_of_perm hperm.symm⟩

/-- Two comparators and a token that says nothing, in either order. -/
theorem parse_accepts_grammar_shuffled :
    let lower : Comparator := ⟨.atLeast, ⟨1, 2, 0, [.word ⟨"rc", rfl⟩], []⟩⟩
    let upper : Comparator := ⟨.below, .release 2 0 0⟩
    ∃ r, parse "<2.0.0 * >=v1.2.0-rc" = .ok r ∧ parse ">=v1.2.0-rc <2.0.0" = .ok r ∧
      ∀ v, r.contains v = true ↔ upper.Admits v ∧ lower.Admits v := by
  intro lower upper
  obtain ⟨hiff, hcontains, hperm⟩ := parse_accepts_grammar "<2.0.0 * >=v1.2.0-rc"
  have htokens : tokens "<2.0.0 * >=v1.2.0-rc" = ["<2.0.0".toList, ">=v1.2.0-rc".toList] := by decide
  have hswapped : tokens ">=v1.2.0-rc <2.0.0" = [">=v1.2.0-rc".toList, "<2.0.0".toList] := by decide
  have hupper : upper.Written "<2.0.0".toList :=
    @Comparator.Written.withOperator .below _ "2.0.0".toList rfl
  have hlower : lower.Written ">=v1.2.0-rc".toList :=
    @Comparator.Written.withOperator .atLeast _ "v1.2.0-rc".toList rfl
  have hwritten : List.Forall₂ Comparator.Written [upper, lower] (tokens "<2.0.0 * >=v1.2.0-rc") := by
    rw [htokens]
    exact .cons hupper (.cons hlower .nil)
  obtain ⟨r, hok⟩ := hiff.2 ⟨_, hwritten, by decide⟩
  refine ⟨r, hok, (hperm _ ?_ r).1 hok, fun v => ?_⟩
  · rw [htokens, hswapped]
    exact .swap _ _ _
  · rw [hcontains r _ hok hwritten v]
    simp

end Range

end Uplift
