import Uplift.Proofs.Json.WellFormed
import Uplift.Transform

set_option autoImplicit false

/-! # Replacing a value twice

An operation that replaces the value at a place leaves alone what it has made (`replace?_replace?`): on
the way to the place it finds the same members and elements again. -/

namespace Uplift

theorem Json.wellFormed_put {fields : Fields Json} {key : String} {v : Json}
    (h : (Json.obj fields).wellFormed = true) (hv : v.wellFormed = true) :
    (Json.obj (Fields.put fields key v)).wellFormed = true := by
  obtain ⟨hkeys, hvalues⟩ := (wellFormed_obj_iff fields).1 h
  refine (wellFormed_obj_iff _).2 ⟨Fields.nodup_keys_put hkeys, fun e he => ?_⟩
  rcases Fields.mem_of_mem_put he with he | rfl
  · exact hvalues e he
  · exact hv

namespace Pointer

/-- A change below a token goes to a member of an object or to an element of an array. -/
theorem update_cons_eq_some {α : Type} {f : Json → Option (α × Json)} {d d' : Json} {token : String}
    {rest : List String} {a : α} (h : update f d (token :: rest) = some (a, d')) :
    (∃ fields old new, d = .obj fields ∧ Fields.get? fields token = some old ∧
      update f old rest = some (a, new) ∧ d' = .obj (Fields.put fields token new)) ∨
    (∃ items i old new, d = .arr items ∧ index? token = some i ∧ items[i]? = some old ∧
      update f old rest = some (a, new) ∧ d' = .arr (items.set i new)) := by
  cases d with
  | obj fields =>
    obtain ⟨old, hget, h⟩ := Option.bind_eq_some_iff.1 h
    obtain ⟨⟨a', new⟩, hnew, h⟩ := Option.bind_eq_some_iff.1 h
    obtain ⟨rfl, rfl⟩ := Prod.mk.inj (Option.some.inj h)
    exact .inl ⟨fields, old, new, rfl, hget, hnew, rfl⟩
  | arr items =>
    obtain ⟨i, hi, h⟩ := Option.bind_eq_some_iff.1 h
    obtain ⟨old, hget, h⟩ := Option.bind_eq_some_iff.1 h
    obtain ⟨⟨a', new⟩, hnew, h⟩ := Option.bind_eq_some_iff.1 h
    obtain ⟨rfl, rfl⟩ := Prod.mk.inj (Option.some.inj h)
    exact .inr ⟨items, i, old, new, rfl, hi, hget, hnew, rfl⟩
  | _ => cases h

end Pointer

namespace Patch

variable {d d' old v : Json} {p : Pointer}

theorem wellFormed_of_replace? (hd : d.wellFormed = true) (hv : v.wellFormed = true)
    (h : replace? d p v = some (old, d')) : d'.wellFormed = true := by
  unfold replace? at h
  generalize p.tokens = tokens at h
  induction tokens generalizing d d' with
  | nil =>
    obtain ⟨-, rfl⟩ := Prod.mk.inj (Option.some.inj h)
    exact hv
  | cons token rest ih =>
    rcases Pointer.update_cons_eq_some h with
      ⟨fields, below, new, rfl, hget, hnew, rfl⟩ | ⟨items, i, below, new, rfl, -, hget, hnew, rfl⟩
    · have hbelow := ((Json.wellFormed_obj_iff fields).1 hd).2 _ (Fields.mem_of_get? hget)
      exact Json.wellFormed_put hd (ih hbelow hnew)
    · have hitems := (Json.wellFormed_arr_iff items).1 hd
      have hbelow := hitems _ (List.mem_of_getElem? hget)
      refine (Json.wellFormed_arr_iff _).2 fun item hitem => ?_
      rcases List.mem_or_eq_of_mem_set hitem with hitem | rfl
      · exact hitems item hitem
      · exact ih hbelow hnew

theorem replace?_replace? (h : replace? d p v = some (old, d')) : replace? d' p v = some (v, d') := by
  unfold replace? at h ⊢
  generalize p.tokens = tokens at h ⊢
  induction tokens generalizing d d' with
  | nil =>
    obtain ⟨-, rfl⟩ := Prod.mk.inj (Option.some.inj h)
    rfl
  | cons token rest ih =>
    rcases Pointer.update_cons_eq_some h with
      ⟨fields, below, new, rfl, hget, hnew, rfl⟩ | ⟨items, i, below, new, rfl, hi, hget, hnew, rfl⟩
    · simp [Pointer.update, ih hnew, Fields.put_put]
    · have hlt : i < items.length := (List.getElem?_eq_some_iff.1 hget).1
      simp [Pointer.update, hi, hlt, ih hnew]

theorem ofPatch_replace_eq_ok_iff {path : Path} :
    Transform.ofPatch [.replace p v] path d = .ok (some d') ↔ ∃ old, replace? d p v = some (old, d') := by
  simp only [Transform.ofPatch, apply, run, runFrom, Operation.run]
  cases replace? d p v with
  | none => simp
  | some made =>
    obtain ⟨old, y⟩ := made
    simp

/-- **To replace a value once more changes nothing.** -/
theorem ofPatch_replace_again {path : Path} (hd : d.wellFormed = true) (hv : v.wellFormed = true)
    (h : Transform.ofPatch [.replace p v] path d = .ok (some d')) :
    Transform.ofPatch [.replace p v] path d' = .ok (some d') ∧ d'.wellFormed = true := by
  obtain ⟨old, hreplace⟩ := ofPatch_replace_eq_ok_iff.1 h
  exact ⟨ofPatch_replace_eq_ok_iff.2 ⟨v, replace?_replace? hreplace⟩,
    wellFormed_of_replace? hd hv hreplace⟩

end Patch

end Uplift
