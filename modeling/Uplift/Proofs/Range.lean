import Uplift.Project
import Uplift.Proofs.Version.Order

set_option autoImplicit false

/-! # What ranges contain

Membership in a range is by precedence. The ranges that a target stands for lie above the version that
they start from (`lt_of_contains_ofRelease`, `contains_of_rangeTo_exact`). -/

namespace Uplift

open Std

namespace Version

theorem above_iff {v w : Version} : v.above w = true ↔ w.precedence v = .lt := by
  rw [above, beq_iff_eq]
  exact OrientedCmp.gt_iff_lt

theorem isStable_nextMajor (v : Version) : v.nextMajor.isStable = true := by
  unfold nextMajor
  split <;> rfl

end Version

namespace Range

open Version

/-! ## Ends -/

theorem meetsLower_exclusive {lo v : Version} :
    meetsLower ⟨lo, false⟩ v = true ↔ lo.precedence v = .lt := by
  have hswap : lo.precedence v = (v.precedence lo).swap := OrientedCmp.eq_swap
  rw [hswap, meetsLower]
  cases v.precedence lo <;> simp

theorem meetsLower_inclusive {lo v : Version} :
    meetsLower ⟨lo, true⟩ v = true ↔ (lo.precedence v).isLE = true := by
  have hswap : lo.precedence v = (v.precedence lo).swap := OrientedCmp.eq_swap
  rw [hswap, meetsLower]
  cases v.precedence lo <;> simp

theorem meetsUpper_inclusive {hi v : Version} :
    meetsUpper ⟨hi, true⟩ v = true ↔ (v.precedence hi).isLE = true := by
  rw [meetsUpper]
  cases v.precedence hi <;> simp

theorem meetsUpper_exclusive {hi v : Version} :
    meetsUpper ⟨hi, false⟩ v = true ↔ v.precedence hi = .lt := by
  rw [meetsUpper]
  cases v.precedence hi <;> simp

/-! ## Ranges -/

theorem contains_open {lo hi v : Version} : contains ⟨some ⟨lo, false⟩, some ⟨hi, false⟩⟩ v = true ↔
    lo.precedence v = .lt ∧ v.precedence hi = .lt := by
  simp [contains, meetsLower_exclusive, meetsUpper_exclusive]

theorem contains_between {lo hi v : Version} : (between lo hi).contains v = true ↔
    lo.precedence v = .lt ∧ (v.precedence hi).isLE = true := by
  simp [contains, between, meetsLower_exclusive, meetsUpper_inclusive]

theorem contains_after {lo v : Version} :
    (after lo).contains v = true ↔ lo.precedence v = .lt := by
  simp [contains, after, meetsLower_exclusive]

theorem contains_upTo {hi v : Version} :
    (upTo hi).contains v = true ↔ (v.precedence hi).isLE = true := by
  simp [contains, upTo, meetsUpper_inclusive]

/-! ## Release types -/

section Release

variable {current v : Version}

theorem contains_minor_iff : (ofRelease current .minor).contains v = true ↔
    current.precedence v = .lt ∧ v.precedence current.nextMajor.floor = .lt := contains_open

theorem contains_patch_iff : (ofRelease current .patch).contains v = true ↔
    current.precedence v = .lt ∧ v.precedence current.nextMinor.floor = .lt := contains_open

/-- A major upgrade leads forward and into the next line, from its first prerelease on. Of these two
    lower ends the range has the higher one. -/
theorem contains_major_iff : (ofRelease current .major).contains v = true ↔
    (current.precedence v = .lt ∧ (current.nextMajor.floor.precedence v).isLE = true) ∧
      (v.precedence current.nextMajor).isLE = true := by
  simp only [ofRelease, contains, Option.all_some, Bool.and_eq_true, meetsUpper_inclusive]
  refine and_congr_left fun _ => ?_
  cases hfloor : current.nextMajor.floor.above current with
  | true =>
    rw [if_pos rfl, meetsLower_inclusive]
    constructor
    · intro hlo
      exact ⟨TransCmp.lt_of_lt_of_isLE (above_iff.1 hfloor) hlo, hlo⟩
    · exact And.right
  | false =>
    have hle : (current.nextMajor.floor.precedence current).isLE = true := by
      rw [isLE_iff_not_lt, ne_eq, ← above_iff, hfloor]
      decide
    rw [if_neg Bool.false_ne_true, meetsLower_exclusive]
    constructor
    · intro hforward
      exact ⟨hforward, TransCmp.isLE_trans hle (by rw [hforward]; rfl)⟩
    · exact And.left

/-- A release type leads forward. -/
theorem lt_of_contains_ofRelease {r : Release} (h : (ofRelease current r).contains v = true) :
    current.precedence v = .lt := by
  cases r with
  | major => exact (contains_major_iff.1 h).1.1
  | minor => exact (contains_minor_iff.1 h).1
  | patch => exact (contains_patch_iff.1 h).1
  | latest => exact contains_after.1 h

/-- A release that a major upgrade leads to is the first one of the next line, up to build
    metadata. -/
theorem nextMajor_of_contains_major (hstable : v.isStable = true)
    (h : (ofRelease current .major).contains v = true) :
    current.nextMajor.precedence v = .eq := by
  obtain ⟨⟨-, hlo⟩, hhi⟩ := contains_major_iff.1 h
  obtain ⟨hmajor, hminor, hpatch⟩ := numbers_eq_of_floor hlo hhi
  have hpre : v.pre = [] := List.isEmpty_iff.1 hstable
  have hnext : current.nextMajor.pre = [] := List.isEmpty_iff.1 current.isStable_nextMajor
  exact precedence_eq_iff.2 ⟨hmajor, hminor, hpatch, by rw [hnext, hpre]⟩

end Release

end Range

namespace Project

variable {p : Project} {range : Range} {v : Version}

/-- The versions whose codemods lead to an exact target: those up to it, and for an application those
    above its own. -/
theorem contains_of_rangeTo_exact {target : Version} (h : p.rangeTo (.exact target) = .ok range) :
    range.contains v = true ↔
      (∀ current, p.version? = some current → current.precedence v = .lt) ∧
        (v.precedence target).isLE = true := by
  unfold rangeTo at h
  unfold version?
  cases hkind : p.kind with
  | plugin =>
    simp only [hkind] at h
    obtain rfl := Except.ok.inj h
    simp [Range.contains_upTo, ProjectKind.version?]
  | application current =>
    simp only [hkind, Range.ofTarget] at h
    split at h
    · obtain rfl := Except.ok.inj h
      simp [Range.contains_between, ProjectKind.version?]
    · cases h

theorem rangeTo_release_of_version? {current : Version} (hcurrent : p.version? = some current)
    (r : Release) : p.rangeTo (.release r) = .ok (Range.ofRelease current r) := by
  unfold version? at hcurrent
  unfold rangeTo
  cases hkind : p.kind with
  | plugin => simp [hkind, ProjectKind.version?] at hcurrent
  | application c =>
    simp only [hkind, ProjectKind.version?] at hcurrent
    obtain rfl := Option.some.inj hcurrent
    rfl

theorem exists_rangeTo_release (p : Project) (r : Release) :
    ∃ range, p.rangeTo (.release r) = .ok range := by
  unfold rangeTo
  cases p.kind <;> exact ⟨_, rfl⟩

theorem lt_of_rangeTo_release {r : Release} {current : Version}
    (h : p.rangeTo (.release r) = .ok range) (hcurrent : p.version? = some current)
    (hv : range.contains v = true) : current.precedence v = .lt := by
  rw [rangeTo_release_of_version? hcurrent] at h
  obtain rfl := Except.ok.inj h
  exact Range.lt_of_contains_ofRelease hv

end Project

end Uplift
