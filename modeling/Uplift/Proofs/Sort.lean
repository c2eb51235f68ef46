import Uplift.Sort

set_option autoImplicit false

/-! # Laws of sorting

Sorting by a comparison puts a list in ascending order (`sortBy_pairwise`), strictly so if no two of
its elements compare as equal (`sortBy_pairwise_lt`), and leaves a list alone that is in order
already (`sortBy_eq_self`). Dropping repeats from a list in ascending order leaves one in strictly
ascending order (`dropRepeats_pairwise_lt`), in which every element is still stood for
(`exists_mem_dropRepeats`).

Elements of which none has to come before another keep their order (`filter_sortBy`). There is only one
ascending list that keeps it (`eq_of_pairwise_of_filter`). -/

namespace Uplift

open Std

variable {α : Type}

/-- Comparing by a key keeps the laws of the comparison. -/
theorem transCmp_on {β : Type} (cmp : β → β → Ordering) [TransCmp cmp] (key : α → β) :
    TransCmp fun a b => cmp (key a) (key b) where
  eq_swap := OrientedCmp.eq_swap
  isLE_trans := TransCmp.isLE_trans

section

variable {cmp : α → α → Ordering} [TransCmp cmp] {lt : α → α → Bool}
  (hlt : ∀ x y, lt x y = true ↔ cmp x y = .lt)

include hlt

theorem isLE_of_not_lt {x y : α} (h : lt y x ≠ true) : (cmp x y).isLE = true := by
  have hyx : cmp y x ≠ .lt := fun hyx => h ((hlt y x).2 hyx)
  have hswap : cmp x y = (cmp y x).swap := OrientedCmp.eq_swap
  rw [hswap]
  cases hcmp : cmp y x with
  | lt => exact absurd hcmp hyx
  | eq => rfl
  | gt => rfl

theorem insertBy_pairwise (x : α) {xs : List α} (h : xs.Pairwise fun a b => (cmp a b).isLE = true) :
    (insertBy lt x xs).Pairwise fun a b => (cmp a b).isLE = true := by
  induction xs with
  | nil => exact List.pairwise_singleton _ x
  | cons y ys ih =>
    obtain ⟨hy, hys⟩ := List.pairwise_cons.1 h
    rw [insertBy]
    split
    · rename_i hyx
      refine List.pairwise_cons.2 ⟨fun z hz => ?_, ih hys⟩
      rcases List.mem_cons.1 ((insertBy_perm lt x ys).mem_iff.1 hz) with rfl | hz
      · rw [(hlt y z).1 hyx]
        rfl
      · exact hy z hz
    · rename_i hyx
      have hxy : (cmp x y).isLE = true := isLE_of_not_lt hlt hyx
      refine List.pairwise_cons.2 ⟨fun z hz => ?_, h⟩
      rcases List.mem_cons.1 hz with rfl | hz
      · exact hxy
      · exact TransCmp.isLE_trans hxy (hy z hz)

/-- Sorting puts a list in ascending order. -/
theorem sortBy_pairwise (xs : List α) :
    (sortBy lt xs).Pairwise fun a b => (cmp a b).isLE = true := by
  induction xs with
  | nil => exact List.Pairwise.nil
  | cons x xs ih => exact insertBy_pairwise hlt x ih

/-- Elements that all compare as different come out in strictly ascending order. -/
theorem sortBy_pairwise_lt {xs : List α} (hne : xs.Pairwise fun a b => cmp a b ≠ .eq) :
    (sortBy lt xs).Pairwise fun a b => cmp a b = .lt := by
  have hsymm : ∀ {a b : α}, cmp a b ≠ .eq → cmp b a ≠ .eq := by
    intro a b hab hba
    exact hab (OrientedCmp.eq_symm hba)
  have hne' : (sortBy lt xs).Pairwise fun a b => cmp a b ≠ .eq :=
    ((sortBy_perm lt xs).pairwise_iff hsymm).2 hne
  refine (hne'.and (sortBy_pairwise hlt xs)).imp fun {a b} hab => ?_
  obtain ⟨hab, hle⟩ := hab
  cases h : cmp a b with
  | lt => rfl
  | eq => exact absurd h hab
  | gt => rw [h] at hle; cases hle

end

/-! ## Repeats -/

theorem mem_of_mem_dropRepeats {same : α → α → Bool} {x : α} {xs : List α}
    (h : x ∈ dropRepeats same xs) : x ∈ xs := by
  induction xs generalizing x with
  | nil => cases h
  | cons y ys ih =>
    rw [dropRepeats] at h
    split at h
    · rw [List.mem_singleton.1 h]
      exact List.mem_cons_self
    · rename_i z zs hkept
      have htail : ∀ w ∈ z :: zs, w ∈ ys := fun w hw => ih (hkept ▸ hw)
      split at h
      · rcases List.mem_cons.1 h with rfl | h
        · exact List.mem_cons_self
        · exact List.mem_cons_of_mem y (htail x (List.mem_cons_of_mem z h))
      · rcases List.mem_cons.1 h with rfl | h
        · exact List.mem_cons_self
        · exact List.mem_cons_of_mem y (htail x h)

section

variable {cmp : α → α → Ordering} [TransCmp cmp] {same : α → α → Bool}
  (hsame : ∀ x y, same x y = true ↔ cmp x y = .eq)

include hsame

/-- Of a list in ascending order, what is kept is in strictly ascending order. -/
theorem dropRepeats_pairwise_lt {xs : List α} (h : xs.Pairwise fun a b => (cmp a b).isLE = true) :
    (dropRepeats same xs).Pairwise fun a b => cmp a b = .lt := by
  induction xs with
  | nil => exact List.Pairwise.nil
  | cons x xs ih =>
    obtain ⟨hx, hxs⟩ := List.pairwise_cons.1 h
    rw [dropRepeats]
    split
    · exact List.pairwise_singleton _ x
    · rename_i y ys hkept
      have hsorted := ih hxs
      rw [hkept] at hsorted
      obtain ⟨hy, hys⟩ := List.pairwise_cons.1 hsorted
      have hle : (cmp x y).isLE = true :=
        hx y (mem_of_mem_dropRepeats (hkept ▸ List.mem_cons_self))
      split
      · rename_i hrepeat
        have hxy := (hsame x y).1 hrepeat
        exact List.pairwise_cons.2 ⟨fun z hz => TransCmp.lt_of_eq_of_lt hxy (hy z hz), hys⟩
      · rename_i hnew
        have hxy : cmp x y = .lt := by
          cases hcmp : cmp x y with
          | lt => rfl
          | eq => exact absurd ((hsame x y).2 hcmp) hnew
          | gt => rw [hcmp] at hle; cases hle
        refine List.pairwise_cons.2 ⟨fun z hz => ?_, hsorted⟩
        rcases List.mem_cons.1 hz with rfl | hz
        · exact hxy
        · exact TransCmp.lt_trans hxy (hy z hz)

/-- For each element one is kept that compares as equal to it. -/
theorem exists_mem_dropRepeats {x : α} {xs : List α} (h : x ∈ xs) :
    ∃ y ∈ dropRepeats same xs, cmp x y = .eq := by
  induction xs with
  | nil => cases h
  | cons z zs ih =>
    rw [dropRepeats]
    split
    · rename_i hnone
      rcases List.mem_cons.1 h with rfl | h
      · exact ⟨x, List.mem_cons_self, ReflCmp.compare_self⟩
      · obtain ⟨y, hy, -⟩ := ih h
        rw [hnone] at hy
        cases hy
    · rename_i w ws hkept
      rcases List.mem_cons.1 h with rfl | h
      · refine ⟨x, ?_, ReflCmp.compare_self⟩
        split <;> exact List.mem_cons_self
      · obtain ⟨y, hy, hxy⟩ := ih h
        rw [hkept] at hy
        split
        · rename_i hrepeat
          rcases List.mem_cons.1 hy with rfl | hy
          · -- the element itself is dropped, and the one before it stands for it
            exact ⟨z, List.mem_cons_self,
              TransCmp.eq_trans hxy (OrientedCmp.eq_symm ((hsame z y).1 hrepeat))⟩
          · exact ⟨y, List.mem_cons_of_mem z hy, hxy⟩
        · exact ⟨y, List.mem_cons_of_mem z hy, hxy⟩

end

theorem sortBy_eq_self {lt : α → α → Bool} {xs : List α}
    (h : xs.Pairwise fun a b => lt b a = false) : sortBy lt xs = xs := by
  induction xs with
  | nil => rfl
  | cons x xs ih =>
    obtain ⟨hx, hxs⟩ := List.pairwise_cons.1 h
    rw [sortBy, ih hxs]
    cases xs with
    | nil => rfl
    | cons y ys => rw [insertBy, hx y List.mem_cons_self]; rfl

/-! ## Stability -/

section

variable {lt : α → α → Bool} {p : α → Bool} (hp : ∀ x y, p x = true → p y = true → lt x y = false)

include hp

/-- Among elements of which none has to come before another, the new one is the first. -/
theorem filter_insertBy (x : α) (xs : List α) :
    (insertBy lt x xs).filter p = (x :: xs).filter p := by
  induction xs with
  | nil => rfl
  | cons y ys ih =>
    rw [insertBy]
    split
    · rename_i hyx
      rw [List.filter_cons, ih]
      by_cases hpy : p y = true
      · -- `y` has to come before `x`, so `x` is none of these elements
        have hpx : ¬ p x = true := fun hpx => by simp [hp y x hpy hpx] at hyx
        simp [hpy, hpx]
      · simp [hpy, List.filter_cons]
    · rfl

/-- Elements of which none has to come before another keep their order. -/
theorem filter_sortBy (xs : List α) : (sortBy lt xs).filter p = xs.filter p := by
  induction xs with
  | nil => rfl
  | cons x xs ih => rw [sortBy, filter_insertBy hp, List.filter_cons, ih, ← List.filter_cons]

end

/-- Two ascending lists are the same if they have the same elements in the same order wherever elements
    compare as equal. -/
theorem eq_of_pairwise_of_filter {cmp : α → α → Ordering} [TransCmp cmp] {xs ys : List α}
    (hxs : xs.Pairwise fun a b => (cmp a b).isLE = true)
    (hys : ys.Pairwise fun a b => (cmp a b).isLE = true)
    (h : ∀ a, xs.filter (fun b => cmp a b = .eq) = ys.filter (fun b => cmp a b = .eq)) : xs = ys := by
  have hself : ∀ a, cmp a a = .eq := fun a => ReflCmp.compare_self
  induction xs generalizing ys with
  | nil =>
    cases ys with
    | nil => rfl
    | cons y ys => simpa [hself] using h y
  | cons x xs ih =>
    cases ys with
    | nil => simpa [hself] using h x
    | cons y ys =>
      obtain ⟨hx, hxs'⟩ := List.pairwise_cons.1 hxs
      obtain ⟨hy, hys'⟩ := List.pairwise_cons.1 hys
      have hmem : ∀ a, a ∈ x :: xs ↔ a ∈ y :: ys := by
        intro a
        have ha := congrArg (a ∈ ·) (h a)
        simpa [hself] using ha
      have hle : (cmp x y).isLE = true := by
        rcases List.mem_cons.1 ((hmem y).2 List.mem_cons_self) with rfl | hmem
        · rw [hself]
          rfl
        · exact hx y hmem
      have hge : (cmp y x).isLE = true := by
        rcases List.mem_cons.1 ((hmem x).1 List.mem_cons_self) with rfl | hmem
        · rw [hself]
          rfl
        · exact hy x hmem
      -- the first elements compare as equal, so both are the first of their kind
      have hxy : cmp x y = .eq := OrientedCmp.isLE_antisymm hle hge
      have hfirst := h x
      rw [List.filter_cons_of_pos (by simp [hself]), List.filter_cons_of_pos (by simp [hxy])] at hfirst
      obtain ⟨rfl, -⟩ := List.cons.inj hfirst
      have htails : xs = ys := by
        refine ih hxs' hys' fun a => ?_
        have hrest := h a
        simp only [List.filter_cons] at hrest
        split at hrest
        · exact (List.cons.inj hrest).2
        · exact hrest
      rw [htails]

end Uplift
