import Uplift.Proofs.Sort
import Uplift.Proofs.Text.Numeral
import Uplift.Version.Basic

set_option autoImplicit false

/-! # Laws of the two orders of versions

Precedence is a total preorder: versions that differ in build metadata alone are equal in it. The
total order refines it to a linear order, in which only equal versions are equal. Both are put
together from comparisons of parts, one after the other, so their laws come from those of the parts.

Numerals in build metadata need a closer look. They compare by value and then by length, and this
tells any two of them apart, because there is one numeral of a given value and length. -/

namespace Uplift

open Std

/-! ## Prerelease tags -/

instance : TransCmp PrePart.cmp where
  eq_swap {p q} := by
    cases p <;> cases q <;> simp only [PrePart.cmp]
    · exact OrientedCmp.eq_swap
    · rfl
    · rfl
    · exact OrientedCmp.eq_swap
  isLE_trans {p q r} hpq hqr := by
    cases p <;> cases q <;> cases r <;> simp only [PrePart.cmp] at hpq hqr ⊢
    · exact TransCmp.isLE_trans hpq hqr
    · rfl
    · cases hqr
    · rfl
    · cases hpq
    · cases hpq
    · cases hqr
    · exact TransCmp.isLE_trans hpq hqr

instance : LawfulEqCmp PrePart.cmp where
  compare_self {p} := by
    cases p <;> exact ReflCmp.compare_self
  eq_of_compare {p q} h := by
    cases p with
    | number m =>
      cases q with
      | number n =>
        have hn : compare m n = .eq := h
        rw [LawfulEqCmp.eq_of_compare hn]
      | word _ => cases h
    | word v =>
      cases q with
      | number _ => cases h
      | word w =>
        obtain ⟨text, _⟩ := v
        obtain ⟨text', _⟩ := w
        have htext : compare text text' = .eq := h
        obtain rfl : text = text' := LawfulEqCmp.eq_of_compare htext
        rfl

theorem cmpPre_eq : cmpPre = compareLex (compareOn List.isEmpty) (List.compareLex PrePart.cmp) := by
  funext ps qs
  cases ps <;> cases qs <;> rfl

instance : TransCmp cmpPre := by
  rw [cmpPre_eq]
  infer_instance

instance : LawfulEqCmp cmpPre where
  compare_self := ReflCmp.compare_self
  eq_of_compare {ps qs} h := by
    rw [cmpPre_eq] at h
    exact LawfulEqCmp.eq_of_compare (compareLex_eq_eq.1 h).2

/-! ## Build metadata -/

namespace BuildPart

/-- Whether a part of the build metadata is a numeral. -/
def numeral (p : BuildPart) : Bool := p.text.toList.all Char.isDigit

/-- What numerals compare by, first. -/
def value (p : BuildPart) : Nat := if p.numeral then Text.ofDigits p.text.toList else 0

/-- What numerals compare by, second. -/
def width (p : BuildPart) : Nat := if p.numeral then p.text.toList.length else 0

/-- What other parts compare by. -/
def word (p : BuildPart) : String := if p.numeral then "" else p.text

theorem cmp_eq : BuildPart.cmp = compareLex (compareOn fun p => !p.numeral)
    (compareLex (compareOn value) (compareLex (compareOn width) (compareOn word))) := by
  funext p q
  cases hp : p.text.toList.all Char.isDigit <;> cases hq : q.text.toList.all Char.isDigit
  all_goals simp only [BuildPart.cmp, compareLex, compareOn, value, width, word, numeral, hp, hq]
  · rfl
  · rfl
  · rfl
  · simp

instance : TransCmp BuildPart.cmp := by
  rw [cmp_eq]
  infer_instance

instance : LawfulEqCmp BuildPart.cmp where
  compare_self := ReflCmp.compare_self
  eq_of_compare {p q} h := by
    simp only [cmp_eq, compareLex_eq_eq, compareOn, Std.compare_eq_iff_eq] at h
    obtain ⟨hnumeral, hvalue, hwidth, hword⟩ := h
    have hnumeral : p.numeral = q.numeral := Bool.not_inj hnumeral
    obtain ⟨text, _⟩ := p
    obtain ⟨text', _⟩ := q
    suffices text = text' by subst this; rfl
    cases hp : text.toList.all Char.isDigit with
    | false =>
      have hq : text'.toList.all Char.isDigit = false := hnumeral.symm.trans hp
      simpa [word, numeral, hp, hq] using hword
    | true =>
      have hq : text'.toList.all Char.isDigit = true := hnumeral.symm.trans hp
      simp only [value, width, numeral, hp, hq, ↓reduceIte] at hvalue hwidth
      exact String.toList_injective
        (Text.ofDigits_inj hwidth (List.all_eq_true.1 hp) (List.all_eq_true.1 hq) hvalue)

end BuildPart

/-! ## Versions -/

namespace Version

instance : TransCmp precedence := by
  have : TransCmp fun v w : Version => cmpPre v.pre w.pre := transCmp_on cmpPre Version.pre
  exact inferInstanceAs <| TransCmp <| compareLex (compareOn Version.major) <|
    compareLex (compareOn Version.minor) <| compareLex (compareOn Version.patch) <|
      fun v w => cmpPre v.pre w.pre

instance : TransCmp order := by
  have : TransCmp fun v w : Version => List.compareLex BuildPart.cmp v.build w.build :=
    transCmp_on (List.compareLex BuildPart.cmp) Version.build
  exact inferInstanceAs <| TransCmp <| compareLex precedence
    fun v w => List.compareLex BuildPart.cmp v.build w.build

/-- Versions of the same precedence differ in build metadata at most. -/
theorem precedence_eq_iff {v w : Version} :
    precedence v w = .eq ↔
      v.major = w.major ∧ v.minor = w.minor ∧ v.patch = w.patch ∧ v.pre = w.pre := by
  simp only [precedence, Ordering.then_eq_eq, Std.compare_eq_iff_eq]
  rw [LawfulEqCmp.compare_eq_iff_eq]

/-- The total order tells any two versions apart. -/
instance : LawfulEqCmp order where
  compare_self := ReflCmp.compare_self
  eq_of_compare {v w} h := by
    obtain ⟨hprec, hbuild⟩ := Ordering.then_eq_eq.1 h
    obtain ⟨hmajor, hminor, hpatch, hpre⟩ := precedence_eq_iff.1 hprec
    have hbuild : v.build = w.build := LawfulEqCmp.eq_of_compare hbuild
    cases v
    cases w
    simp_all

theorem order_self (v : Version) : order v v = .eq := ReflCmp.compare_self

/-- Two comparisons that start with the same numbers, one each way. -/
theorem eq_of_isLE_then {m n : UInt64} {o o' : Ordering}
    (h : ((compare m n).then o).isLE = true) (h' : ((compare n m).then o').isLE = true) :
    m = n ∧ o.isLE = true ∧ o'.isLE = true := by
  have hle : (compare m n).isLE = true := by
    rcases Ordering.isLE_then_iff_or.1 h with hlt | ⟨heq, -⟩ <;> simp [*]
  have hge : (compare n m).isLE = true := by
    rcases Ordering.isLE_then_iff_or.1 h' with hlt | ⟨heq, -⟩ <;> simp [*]
  obtain rfl : m = n := Std.compare_eq_iff_eq.1 (OrientedCmp.isLE_antisymm hle hge)
  have hself : compare m m = .eq := Std.compare_eq_iff_eq.2 rfl
  rw [hself] at h h'
  exact ⟨rfl, h, h'⟩

/-- What is not above `w` and not below the least version with its numbers has its numbers. -/
theorem numbers_eq_of_floor {v w : Version} (hlo : (w.floor.precedence v).isLE = true)
    (hhi : (v.precedence w).isLE = true) :
    w.major = v.major ∧ w.minor = v.minor ∧ w.patch = v.patch := by
  obtain ⟨hmajor, hlo, hhi⟩ := eq_of_isLE_then hlo hhi
  obtain ⟨hminor, hlo, hhi⟩ := eq_of_isLE_then hlo hhi
  obtain ⟨hpatch, -, -⟩ := eq_of_isLE_then hlo hhi
  exact ⟨hmajor, hminor, hpatch⟩

/-- The total order decides by precedence, where that decides. -/
theorem isLE_precedence_of_order_gt {v w : Version} (h : v.order w = .gt) :
    (w.precedence v).isLE = true := by
  have hswap : w.precedence v = (v.precedence w).swap := OrientedCmp.eq_swap
  rw [order] at h
  rw [hswap]
  cases hprec : v.precedence w with
  | lt => rw [hprec] at h; cases h
  | eq => rfl
  | gt => rfl

theorem isLE_iff_not_lt {v w : Version} : (v.precedence w).isLE = true ↔ w.precedence v ≠ .lt := by
  rw [← OrientedCmp.isGE_iff_isLE, ne_eq, Ordering.ne_lt_iff_isGE]

theorem order_gt_of_precedence_lt {v w : Version} (h : w.precedence v = .lt) : v.order w = .gt := by
  have hgt : v.precedence w = .gt := OrientedCmp.gt_of_lt h
  rw [order, hgt]
  rfl

/-! ## The greatest version -/

theorem mem_of_greatest? {vs : List Version} {v : Version} (h : greatest? vs = some v) : v ∈ vs := by
  induction vs generalizing v with
  | nil => cases h
  | cons w ws ih =>
    rw [greatest?] at h
    cases hws : greatest? ws with
    | none =>
      rw [hws] at h
      rw [Option.some.inj h]
      exact List.mem_cons_self
    | some x =>
      simp only [hws] at h
      split at h
      · rw [Option.some.inj h]
        exact List.mem_cons_self
      · rw [← Option.some.inj h]
        exact List.mem_cons_of_mem w (ih hws)

theorem greatest?_eq_none_iff {vs : List Version} : greatest? vs = none ↔ vs = [] := by
  cases vs with
  | nil => simp [greatest?]
  | cons v vs =>
    simp only [greatest?, reduceCtorEq, iff_false]
    split
    · simp
    · split <;> simp

/-- None of some versions is above the greatest of them. -/
theorem isLE_of_greatest? {vs : List Version} {t v : Version} (h : greatest? vs = some t)
    (hv : v ∈ vs) : (v.order t).isLE = true := by
  induction vs generalizing t with
  | nil => cases hv
  | cons w ws ih =>
    rw [greatest?] at h
    cases hws : greatest? ws with
    | none =>
      obtain rfl : ws = [] := greatest?_eq_none_iff.1 hws
      obtain rfl : v = w := List.mem_singleton.1 hv
      obtain rfl : v = t := Option.some.inj h
      rw [order_self]
      rfl
    | some x =>
      simp only [hws, beq_iff_eq] at h
      split at h
      · -- `w` is above the greatest of the others
        rename_i hgt
        obtain rfl : w = t := Option.some.inj h
        rcases List.mem_cons.1 hv with rfl | hv
        · rw [order_self]
          rfl
        · have hlt : x.order w = .lt := OrientedCmp.lt_of_gt hgt
          exact TransCmp.isLE_trans (ih hws hv) (by rw [hlt]; rfl)
      · rename_i hle
        obtain rfl : x = t := Option.some.inj h
        rcases List.mem_cons.1 hv with rfl | hv
        · exact Ordering.ne_gt_iff_isLE.1 hle
        · exact ih hws hv

/-- The greatest of some versions is the one of them that none is above. There is only one, since the total
    order tells any two versions apart. -/
theorem greatest?_eq_some_iff {vs : List Version} {t : Version} :
    greatest? vs = some t ↔ t ∈ vs ∧ ∀ v ∈ vs, (v.order t).isLE = true := by
  constructor
  · intro h
    exact ⟨mem_of_greatest? h, fun v hv => isLE_of_greatest? h hv⟩
  · rintro ⟨hmem, hle⟩
    cases h : greatest? vs with
    | none =>
      rw [greatest?_eq_none_iff.1 h] at hmem
      cases hmem
    | some u =>
      have heq : u.order t = .eq :=
        OrientedCmp.isLE_antisymm (hle u (mem_of_greatest? h)) (isLE_of_greatest? h hmem)
      rw [LawfulEqCmp.eq_of_compare heq]

/-- The greatest version depends on which versions there are, not on their order or number. -/
theorem greatest?_congr {vs ws : List Version} (h : ∀ v, v ∈ vs ↔ v ∈ ws) :
    greatest? vs = greatest? ws := by
  ext t
  simp only [greatest?_eq_some_iff, h]

end Version

end Uplift
