import Uplift.Manifest
import Uplift.Proofs.Fields

set_option autoImplicit false

/-! # Laws of manifests

Pinning a framework anew touches the entries of `dependencies` that are pinned to the old version and
nothing else there (`dependencies_bump`). The framework's own package is among them if its name is one
that a framework owns (`Framework.owns_package_iff`). -/

namespace Uplift

/-- A framework owns its own package, unless that is a scope without a name. -/
theorem Framework.owns_package_iff (f : Framework) : f.owns f.package = true ↔
    '/' ∈ f.package.toList ∨ f.package.toList.head? ≠ some '@' := by
  cases hsplit : Text.splitFirst '/' f.package.toList with
  | none =>
    have hslash := Text.splitFirst_eq_none.1 hsplit
    have hself := Text.dropPrefix?_append f.package.toList []
    rw [List.append_nil] at hself
    by_cases hat : f.package.toList.head? = some '@'
    · simp [owns, scope, hsplit, hat, hself, hslash]
    · simp [owns, scope, hsplit, hat]
  | some cut =>
    obtain ⟨front, back⟩ := cut
    obtain ⟨htext, -⟩ := Text.splitFirst_eq_some hsplit
    have hslash : '/' ∈ f.package.toList := by simp [htext]
    by_cases hat : front.head? = some '@'
    · have hrest := Text.dropPrefix?_append front ('/' :: back)
      rw [← htext] at hrest
      simp [owns, scope, hsplit, hat, hrest, hslash]
    · have hhead : f.package.toList.head? ≠ some '@' := by
        rw [htext]
        cases front with
        | nil => simp
        | cons c front => exact hat
      simp [owns, scope, hsplit, hat, hhead, hslash]

namespace Manifest

variable (f : Framework) (old new : Version)

theorem bump_obj (fields : List (String × Json)) :
    bump (.obj fields) f old new = .obj (fields.map (bumpMember f old new)) := rfl

theorem bumpMember_fst (e : String × Json) : (bumpMember f old new e).1 = e.1 := by
  obtain ⟨k, v⟩ := e
  simp only [bumpMember]
  split <;> rfl

theorem repin_fst (e : String × Json) : (repin f old new e).1 = e.1 := by
  unfold repin
  split <;> rfl

theorem member?_bump (m : Json) (key : String) : (bump m f old new).member? key
    = (m.member? key).map fun v => (bumpMember f old new (key, v)).2 := by
  cases m with
  | obj fields => exact Fields.get?_map (bumpMember_fst f old new) fields key
  | null | bool _ | int _ | float _ | str _ | arr _ => rfl

theorem member?_bumpMember (v : Json) (name : String) :
    (bumpMember f old new ("dependencies", v)).2.member? name
      = (v.member? name).map fun d => (repin f old new (name, d)).2 := by
  cases v with
  | obj deps => exact Fields.get?_map (repin_fst f old new) deps name
  | null | bool _ | int _ | float _ | str _ | arr _ => rfl

theorem bumpMember_of_ne {key : String} (h : key ≠ "dependencies") (v : Json) :
    bumpMember f old new (key, v) = (key, v) := by
  simp [bumpMember, h]

/-- **The dependencies after pinning are those before**, each pinned anew if it was pinned to the old
    version. -/
theorem dependencies_bump (m : Json) :
    dependencies (bump m f old new) = (dependencies m).map (repin f old new) := by
  rw [dependencies, dependencies, member?_bump]
  cases m.member? "dependencies" with
  | none => rfl
  | some v => cases v <;> rfl

theorem mem_dependencies_bump {m : Json} {name : String} (h : name ∈ pins m f old) :
    (name, Json.str new.text) ∈ dependencies (bump m f old new) := by
  rw [dependencies_bump]
  obtain ⟨entry, hentry, rfl⟩ := List.mem_map.1 h
  obtain ⟨hmem, hpin⟩ := List.mem_filter.1 hentry
  refine List.mem_map.2 ⟨entry, hmem, ?_⟩
  rw [repin, if_pos hpin]

end Manifest

end Uplift
