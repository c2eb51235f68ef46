set_option autoImplicit false

/-! # Results in steps

What is known of a result that was reached in steps: it is a result of every step, or the error of the
first step that failed. -/

namespace Uplift

variable {ε ε' α β : Type} {x : Except ε α} {f : α → Except ε β}

/-! ## Steps -/

theorem ok_bind (a : α) (f : α → Except ε β) : (Except.ok a >>= f) = f a := rfl

theorem bind_eq_ok_iff {b : β} : (x >>= f) = .ok b ↔ ∃ a, x = .ok a ∧ f a = .ok b := by
  cases x <;> simp [bind, Except.bind]

theorem bind_eq_error_iff {e : ε} :
    (x >>= f) = .error e ↔ x = .error e ∨ ∃ a, x = .ok a ∧ f a = .error e := by
  cases x <;> simp [bind, Except.bind]

theorem exists_of_mapM_error {xs : List α} {e : ε} (h : xs.mapM f = .error e) :
    ∃ x ∈ xs, f x = .error e := by
  induction xs with
  | nil => cases h
  | cons x xs ih =>
    rw [List.mapM_cons] at h
    rcases bind_eq_error_iff.1 h with hx | ⟨y, -, h⟩
    · exact ⟨x, List.mem_cons_self, hx⟩
    · rcases bind_eq_error_iff.1 h with hxs | ⟨ys, -, h⟩
      · obtain ⟨x', hmem, hx'⟩ := ih hxs
        exact ⟨x', List.mem_cons_of_mem x hmem, hx'⟩
      · cases h

/-! ## Errors in other words -/

theorem mapError_ok (g : ε → ε') (a : α) : (Except.ok a : Except ε α).mapError g = .ok a := rfl

theorem mapError_error (g : ε → ε') (e : ε) :
    (Except.error e : Except ε α).mapError g = .error (g e) := rfl

theorem mapError_eq_ok_iff {g : ε → ε'} {a : α} : x.mapError g = .ok a ↔ x = .ok a := by
  cases x with
  | error e => simp [mapError_error]
  | ok a' => simp [mapError_ok]

/-! ## Results without their errors -/

theorem toOption_map (x : Except ε α) (f : α → β) :
    (x.map f).toOption = x.toOption.bind fun a => some (f a) := by
  cases x <;> rfl

theorem eq_ok_of_toOption {a : α} (h : x.toOption = some a) : x = .ok a := by
  cases x with
  | error e => cases h
  | ok b => rw [Option.some.inj h]

theorem exists_error_of_toOption (h : x.toOption = none) : ∃ e, x = .error e := by
  cases x with
  | error e => exact ⟨e, rfl⟩
  | ok a => cases h

end Uplift
