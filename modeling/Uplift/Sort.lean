set_option autoImplicit false

/-! # Stable insertion sort

Lists here are short (versions of a package, files of a project), so the plain insertion sort is
used everywhere: it recurses on the list, and its laws are short inductions. `lt` says which of two
elements has to come first; elements that are not comparable keep their places. -/

namespace Uplift

variable {α : Type}

/-- Insert `x` in front of the first element that does not have to come before it. -/
def insertBy (lt : α → α → Bool) (x : α) : List α → List α
  | [] => [x]
  | y :: ys => if lt y x then y :: insertBy lt x ys else x :: y :: ys

/-- Stable sort. -/
def sortBy (lt : α → α → Bool) : List α → List α
  | [] => []
  | x :: xs => insertBy lt x (sortBy lt xs)

/-- Keep the first of each run of neighbours that are the same. -/
def dropRepeats (same : α → α → Bool) : List α → List α
  | [] => []
  | x :: xs =>
    match dropRepeats same xs with
    | [] => [x]
    | y :: ys => if same x y then x :: ys else x :: y :: ys

/-! ## Laws -/

theorem insertBy_perm (lt : α → α → Bool) (x : α) (xs : List α) :
    (insertBy lt x xs).Perm (x :: xs) := by
  induction xs with
  | nil => exact List.Perm.refl _
  | cons y ys ih =>
    rw [insertBy]
    split
    · exact (ih.cons y).trans (List.Perm.swap x y ys)
    · exact List.Perm.refl _

theorem sortBy_perm (lt : α → α → Bool) (xs : List α) : (sortBy lt xs).Perm xs := by
  induction xs with
  | nil => exact List.Perm.refl _
  | cons x xs ih => exact (insertBy_perm lt x _).trans (ih.cons x)

theorem mem_sortBy {lt : α → α → Bool} {x : α} {xs : List α} : x ∈ sortBy lt xs ↔ x ∈ xs :=
  (sortBy_perm lt xs).mem_iff

end Uplift
