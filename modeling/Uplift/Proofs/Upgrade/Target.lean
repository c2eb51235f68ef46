import Uplift.Proofs.Range
import Uplift.Upgrade

set_option autoImplicit false

/-! # What a target resolves to

`Resolution` lists what can come out of resolving a target among the published versions. -/

namespace Uplift.Upgrade

/-- An outcome of resolving a target, and when it comes out. -/
inductive Resolution (target : Target) (p : Project) (available : List Version) :
    Except Failure Version → Prop
  /-- An exact target has to move forward. -/
  | backward {v current : Version} (hversion : p.version? = some current)
      (htarget : target = .exact v) (hback : v.above current = false) :
      Resolution target p available (.error (.domain (.invalidTarget current v)))
  /-- Nothing in the range was published. -/
  | unpublished {range : Range} :
      Resolution target p available (.error (.noCandidate p.framework.package range))
  /-- An exact target was published. -/
  | exact {v : Version} (htarget : target = .exact v) (hmem : v ∈ available)
      (hforward : ∀ current, p.version? = some current → v.above current = true) :
      Resolution target p available (.ok v)
  /-- A release type stands for the greatest stable version of its range. -/
  | release {r : Release} {range : Range} {v : Version} (htarget : target = .release r)
      (hrange : p.rangeTo target = .ok range)
      (hgreatest : Version.greatest? (available.filter fun v => v.isStable && range.contains v)
        = some v) :
      Resolution target p available (.ok v)

theorem resolveTarget_exact (v : Version) (p : Project) (available : List Version)
    (hforward : ∀ current, p.version? = some current → v.above current = true) :
    resolveTarget (.exact v) p available = if v ∈ available then .ok v
      else .error (.noCandidate p.framework.package (Range.exact v)) := by
  have hpublished : (if available.contains v then .ok v
      else .error (.noCandidate p.framework.package (Range.exact v)) : Except Failure Version)
        = if v ∈ available then .ok v
          else .error (.noCandidate p.framework.package (Range.exact v)) := by
    simp only [List.contains_iff_mem]
  unfold resolveTarget
  cases hversion : p.version? with
  | none => exact hpublished
  | some current =>
    have hrange : Range.ofTarget current (.exact v) = .ok (Range.between current v) := by
      simp [Range.ofTarget, hforward current hversion]
    dsimp only
    rw [hrange]
    exact hpublished

theorem resolveTarget_exact_backward {v current : Version} {p : Project} (available : List Version)
    (hversion : p.version? = some current) (hback : v.above current = false) :
    resolveTarget (.exact v) p available = .error (.domain (.invalidTarget current v)) := by
  unfold resolveTarget
  simp only [hversion, Range.ofTarget, hback]
  rfl

theorem resolveTarget_release (r : Release) (p : Project) (available : List Version) (range : Range)
    (hrange : p.rangeTo (.release r) = .ok range) :
    resolveTarget (.release r) p available =
      match Version.greatest? (available.filter fun v => v.isStable && range.contains v) with
      | some v => .ok v
      | none => .error (.noCandidate p.framework.package range) := by
  unfold resolveTarget
  dsimp only
  rw [hrange]
  rfl

/-- A target moves an application forward, or it does not. A plugin has no version to stay behind. -/
theorem forward_or_backward (p : Project) (v : Version) :
    (∀ current, p.version? = some current → v.above current = true) ∨
      ∃ current, p.version? = some current ∧ v.above current = false := by
  cases hversion : p.version? with
  | none => exact .inl nofun
  | some current => cases hforward : v.above current <;> simp [hforward]

theorem resolveTarget_resolution (target : Target) (p : Project) (available : List Version) :
    Resolution target p available (resolveTarget target p available) := by
  cases target with
  | exact v =>
    rcases forward_or_backward p v with hforward | ⟨current, hversion, hback⟩
    · rw [resolveTarget_exact v p available hforward]
      split
      · rename_i hmem
        exact .exact rfl hmem hforward
      · exact .unpublished
    · rw [resolveTarget_exact_backward available hversion hback]
      exact .backward hversion rfl hback
  | release r =>
    obtain ⟨range, hrange⟩ := p.exists_rangeTo_release r
    rw [resolveTarget_release r p available range hrange]
    split
    · rename_i v hgreatest
      exact .release rfl hrange hgreatest
    · exact .unpublished

/-- An application with a framework of some version. -/
def applicationOf (c : Version) : Project where
  cwd := ⟨"/app"⟩
  framework := ⟨"core"⟩
  manifestPath := ⟨"/app/package.json"⟩
  manifest := .obj []
  kind := .application c
  files := []

end Uplift.Upgrade
