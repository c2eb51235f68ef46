import Uplift.Json.Basic
import Uplift.Proofs.Fields

set_option autoImplicit false

/-! # Well-formed values

An object is a list of members that stands for a map from keys to values. A value is *well-formed* if no
object in it has a key twice, as it is with everything that is read. Values are taken apart by induction
over what is in them. A well-formed value is the same document as itself (`same_self`); one with a key
twice would not be, because a key is looked up at its first place. -/

namespace Uplift.Json

/-- Whether a value is neither an object nor an array. -/
def isScalar : Json → Bool
  | .arr _ => false
  | .obj _ => false
  | _ => true

/-- What holds of scalars, and of arrays and objects if it holds of all that is in them, holds of all
    values. -/
theorem induction {P : Json → Prop} (hscalar : ∀ v, v.isScalar = true → P v)
    (harr : ∀ items, (∀ v ∈ items, P v) → P (arr items))
    (hobj : ∀ fields, (∀ e ∈ fields, P e.2) → P (obj fields)) : ∀ v, P v
  | .null => hscalar .null rfl
  | .bool b => hscalar (.bool b) rfl
  | .int i => hscalar (.int i) rfl
  | .float d => hscalar (.float d) rfl
  | .str s => hscalar (.str s) rfl
  | .arr items => harr items fun v _ => induction hscalar harr hobj v
  | .obj fields => hobj fields fun e _ => induction hscalar harr hobj e.2
  termination_by v => v
  decreasing_by
    · rename_i hv
      have hsize := List.sizeOf_lt_of_mem hv
      simp only [arr.sizeOf_spec]
      omega
    · rename_i he
      have hsize := List.sizeOf_lt_of_mem he
      obtain ⟨k, v⟩ := e
      simp only [obj.sizeOf_spec, Prod.mk.sizeOf_spec] at hsize ⊢
      omega

mutual

/-- Whether no object in a value has a key twice. -/
def wellFormed : Json → Bool
  | .arr items => wellFormedItems items
  | .obj fields => decide (Fields.keys fields).Nodup && wellFormedFields fields
  | _ => true

/-- Whether some items are well-formed. -/
def wellFormedItems : List Json → Bool
  | [] => true
  | v :: vs => wellFormed v && wellFormedItems vs

/-- Whether the values of some members are well-formed. -/
def wellFormedFields : List (String × Json) → Bool
  | [] => true
  | (_, v) :: fs => wellFormed v && wellFormedFields fs

end

theorem wellFormedItems_iff (items : List Json) :
    wellFormedItems items = true ↔ ∀ v ∈ items, v.wellFormed = true := by
  induction items with
  | nil => simp [wellFormedItems]
  | cons v vs ih => simp [wellFormedItems, ih]

theorem wellFormedFields_iff (fields : List (String × Json)) :
    wellFormedFields fields = true ↔ ∀ e ∈ fields, e.2.wellFormed = true := by
  induction fields with
  | nil => simp [wellFormedFields]
  | cons e fs ih =>
    obtain ⟨k, v⟩ := e
    simp [wellFormedFields, ih]

theorem wellFormed_of_isScalar {v : Json} (h : v.isScalar = true) : v.wellFormed = true := by
  cases v with
  | arr items => cases h
  | obj fields => cases h
  | _ => rfl

theorem wellFormed_arr_iff (items : List Json) :
    (arr items).wellFormed = true ↔ ∀ v ∈ items, v.wellFormed = true := by
  rw [wellFormed, wellFormedItems_iff]

theorem wellFormed_obj_iff (fields : List (String × Json)) :
    (obj fields).wellFormed = true ↔
      (Fields.keys fields).Nodup ∧ ∀ e ∈ fields, e.2.wellFormed = true := by
  simp [wellFormed, wellFormedFields_iff]

/-! ## Sameness -/

theorem sameItems_self {items : List Json} (h : ∀ v ∈ items, v.same v = true) :
    sameItems items items = true := by
  induction items with
  | nil => rfl
  | cons v vs ih =>
    simp only [List.mem_cons, forall_eq_or_imp] at h
    simp [sameItems, h.1, ih h.2]

theorem sameFields_of_get? {fields others : List (String × Json)}
    (h : ∀ e ∈ fields, ∃ w, Fields.get? others e.1 = some w ∧ e.2.same w = true) :
    sameFields fields others = true := by
  induction fields with
  | nil => rfl
  | cons e fs ih =>
    simp only [List.mem_cons, forall_eq_or_imp] at h
    obtain ⟨⟨w, hget, hsame⟩, hrest⟩ := h
    simp [sameFields, hget, hsame, ih hrest]

/-- **A well-formed value is the same document as itself.** -/
theorem same_self (v : Json) : v.wellFormed = true → v.same v = true := by
  induction v using induction with
  | hscalar v hv =>
    intro _
    cases v with
    | arr items => cases hv
    | obj fields => cases hv
    | float d => simp [same, Double.same]
    | _ => simp [same]
  | harr items ih =>
    intro hwf
    rw [same]
    exact sameItems_self fun v hv => ih v hv ((wellFormed_arr_iff items).1 hwf v hv)
  | hobj fields ih =>
    intro hwf
    obtain ⟨hkeys, hvalues⟩ := (wellFormed_obj_iff fields).1 hwf
    have hfields : sameFields fields fields = true :=
      sameFields_of_get? fun e he => ⟨e.2, Fields.get?_of_mem hkeys he, ih e he (hvalues e he)⟩
    simp [same, hfields]

end Uplift.Json
