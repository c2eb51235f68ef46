import Mathlib.Tactic.MkIffOfInductiveProp
import Uplift.Proofs.Range.Line
import Uplift.Proofs.Upgrade.Target

set_option autoImplicit false

/-! # The best published version

A release type stands for the greatest published release in its range, an exact target for itself.
`Best` says the first without the search: among the releases in range that were published, none is above
it in the total order. There is at most one such version, so the order in which the versions were listed
does not count (`resolveTarget_picks_best`).

The range is by precedence and the greatest by the total order, which refines it. So once an application
is at the best version, nothing in its old range has higher precedence. For a minor, patch or latest
upgrade the new range is part of the old one, and there is nothing left (`resolveTarget_converges`). -/

namespace Uplift.Upgrade

open Version

variable {available : List Version} {range : Range} {t v : Version}

/-- A published release in a range. -/
@[mk_iff]
structure Eligible (available : List Version) (range : Range) (v : Version) : Prop where
  published : v ∈ available
  stable : v.isStable = true
  inRange : range.contains v = true

/-- The greatest published release in a range. -/
@[mk_iff]
structure Best (available : List Version) (range : Range) (t : Version) : Prop where
  eligible : Eligible available range t
  greatest : ∀ v, Eligible available range v → (v.order t).isLE = true

theorem mem_filter_iff_eligible :
    v ∈ available.filter (fun v => v.isStable && range.contains v) ↔ Eligible available range v := by
  rw [List.mem_filter, Bool.and_eq_true, eligible_iff]

/-! ## Release types -/

section Release

variable {r : Release} {p : Project}

theorem resolveTarget_release_eq_ok_iff (hrange : p.rangeTo (.release r) = .ok range) :
    resolveTarget (.release r) p available = .ok t ↔ Best available range t := by
  have hbest : greatest? (available.filter fun v => v.isStable && range.contains v) = some t ↔
      Best available range t := by
    simp only [greatest?_eq_some_iff, mem_filter_iff_eligible, best_iff]
  rw [resolveTarget_release r p available range hrange, ← hbest]
  cases greatest? (available.filter fun v => v.isStable && range.contains v) <;> simp

theorem resolveTarget_release_eq_error_iff {e : Failure}
    (hrange : p.rangeTo (.release r) = .ok range) :
    resolveTarget (.release r) p available = .error e ↔
      e = .noCandidate p.framework.package range ∧ ∀ v, ¬ Eligible available range v := by
  have hnone : greatest? (available.filter fun v => v.isStable && range.contains v) = none ↔
      ∀ v, ¬ Eligible available range v := by
    simp only [greatest?_eq_none_iff, List.eq_nil_iff_forall_not_mem, mem_filter_iff_eligible]
  rw [resolveTarget_release r p available range hrange, ← hnone]
  cases greatest? (available.filter fun v => v.isStable && range.contains v) with
  | none =>
    simp only [Except.error.injEq, and_true]
    exact eq_comm
  | some u => simp

end Release

/-! ## Exact targets -/

variable {p : Project}

theorem resolveTarget_exact_eq_ok_iff : resolveTarget (.exact v) p available = .ok t ↔
    t = v ∧ v ∈ available ∧ ∀ current, p.version? = some current → v.above current = true := by
  constructor
  · intro h
    rcases forward_or_backward p v with hforward | ⟨current, hversion, hback⟩
    · rw [resolveTarget_exact v p available hforward] at h
      split at h
      · rename_i hmem
        exact ⟨(Except.ok.inj h).symm, hmem, hforward⟩
      · cases h
    · rw [resolveTarget_exact_backward available hversion hback] at h
      cases h
  · rintro ⟨rfl, hmem, hforward⟩
    rw [resolveTarget_exact t p available hforward, if_pos hmem]

/-- An exact target that does not move forward is refused as such, published or not. -/
theorem resolveTarget_exact_eq_error_iff {e : Failure} :
    resolveTarget (.exact v) p available = .error e ↔
      (∃ current, p.version? = some current ∧ v.above current = false ∧
        e = .domain (.invalidTarget current v)) ∨
      (∀ current, p.version? = some current → v.above current = true) ∧ v ∉ available ∧
        e = .noCandidate p.framework.package (Range.exact v) := by
  constructor
  · intro h
    rcases forward_or_backward p v with hforward | ⟨current, hversion, hback⟩
    · rw [resolveTarget_exact v p available hforward] at h
      split at h
      · cases h
      · rename_i hmem
        exact .inr ⟨hforward, hmem, (Except.error.inj h).symm⟩
    · rw [resolveTarget_exact_backward available hversion hback] at h
      exact .inl ⟨current, hversion, hback, (Except.error.inj h).symm⟩
  · rintro (⟨current, hversion, hback, rfl⟩ | ⟨hforward, hmem, rfl⟩)
    · exact resolveTarget_exact_backward available hversion hback
    · rw [resolveTarget_exact v p available hforward, if_neg hmem]

/-! ## All targets -/

theorem resolveTarget_perm (target : Target) {shuffled : List Version} (h : available.Perm shuffled) :
    resolveTarget target p shuffled = resolveTarget target p available := by
  cases target with
  | exact v =>
    rcases forward_or_backward p v with hforward | ⟨current, hversion, hback⟩
    · simp only [resolveTarget_exact v p _ hforward, h.mem_iff]
    · simp only [resolveTarget_exact_backward _ hversion hback]
  | release r =>
    obtain ⟨range, hrange⟩ := p.exists_rangeTo_release r
    have hsame : greatest? (shuffled.filter fun v => v.isStable && range.contains v)
        = greatest? (available.filter fun v => v.isStable && range.contains v) :=
      greatest?_congr fun v => (h.filter _).mem_iff.symm
    rw [resolveTarget_release r p _ range hrange, resolveTarget_release r p _ range hrange, hsame]

/-- **A target stands for the best published version and nothing else.** A release type has a range. It is
    resolved to `t` exactly when `t` is the greatest published release in that range, and the only other
    outcome is that there is no candidate, exactly when no release in the range was published. An exact
    target is resolved to itself exactly when it was published and moves an application forward; one that
    does not move forward is refused as invalid, and one that does but was not published has no candidate.
    The order of the published versions does not count. -/
theorem resolveTarget_picks_best (p : Project) (available : List Version) :
    (∀ r : Release, ∃ range, p.rangeTo (.release r) = .ok range ∧
      (∀ t, resolveTarget (.release r) p available = .ok t ↔ Best available range t) ∧
      (∀ e, resolveTarget (.release r) p available = .error e ↔
        e = .noCandidate p.framework.package range ∧ ∀ v, ¬ Eligible available range v)) ∧
    (∀ v : Version,
      (∀ t, resolveTarget (.exact v) p available = .ok t ↔ t = v ∧ v ∈ available ∧
        ∀ current, p.version? = some current → v.above current = true) ∧
      (∀ e, resolveTarget (.exact v) p available = .error e ↔
        (∃ current, p.version? = some current ∧ v.above current = false ∧
          e = .domain (.invalidTarget current v)) ∨
        (∀ current, p.version? = some current → v.above current = true) ∧ v ∉ available ∧
          e = .noCandidate p.framework.package (Range.exact v))) ∧
    (∀ (target : Target) (shuffled : List Version), available.Perm shuffled →
      resolveTarget target p shuffled = resolveTarget target p available) := by
  refine ⟨fun r => ?_, fun v => ?_, fun target shuffled => resolveTarget_perm target⟩
  · obtain ⟨range, hrange⟩ := p.exists_rangeTo_release r
    exact ⟨range, hrange, fun t => resolveTarget_release_eq_ok_iff hrange,
      fun e => resolveTarget_release_eq_error_iff hrange⟩
  · exact ⟨fun t => resolveTarget_exact_eq_ok_iff, fun e => resolveTarget_exact_eq_error_iff⟩

/-- A release that was published twice, between a prerelease and the next line. The later build is the best
    version for a minor upgrade, in whatever order they are listed; the prerelease can be named. -/
theorem resolveTarget_picks_best_build :
    let p := applicationOf (.release 1 1 0)
    let pre : Version := ⟨1, 3, 0, [.word ⟨"rc", rfl⟩, .number 1], []⟩
    let rebuilt : Version := ⟨1, 2, 0, [], [⟨"b", rfl⟩]⟩
    let available : List Version := [.release 1 2 0, rebuilt, .release 1 1 0, pre, .release 2 0 0]
    Best available (Range.ofRelease (.release 1 1 0) .minor) rebuilt ∧
      resolveTarget (.release .minor) p available.reverse = .ok rebuilt ∧
      resolveTarget (.exact pre) p available = .ok pre := by
  intro p pre rebuilt available
  obtain ⟨hrelease, hexact, hperm⟩ := resolveTarget_picks_best p available
  obtain ⟨range, hrange, hbest, -⟩ := hrelease .minor
  obtain rfl : Range.ofRelease (.release 1 1 0) .minor = range := Except.ok.inj hrange
  have hfirst : resolveTarget (.release .minor) p available = .ok rebuilt := rfl
  refine ⟨(hbest rebuilt).1 hfirst, ?_, ((hexact pre).1 pre).2 ⟨rfl, by decide, ?_⟩⟩
  · rw [hperm _ _ (List.reverse_perm available).symm, hfirst]
  · intro current hcurrent
    obtain rfl : .release 1 1 0 = current := Option.some.inj hcurrent
    decide

/-! ## The same upgrade again -/

/-- **A minor, patch or latest upgrade is done after one step.** If it resolves to `t` for an application
    at `c`, then for one at `t` it has no candidate among the same versions. -/
theorem resolveTarget_converges {q : Project} {c : Version} {k : Release} (hk : k ≠ .major)
    (hp : p.version? = some c) (hq : q.version? = some t)
    (hfirst : resolveTarget (.release k) p available = .ok t) :
    resolveTarget (.release k) q available
      = .error (.noCandidate q.framework.package (Range.ofRelease t k)) := by
  obtain ⟨heligible, hgreatest⟩ :=
    (resolveTarget_release_eq_ok_iff (Project.rangeTo_release_of_version? hp k)).1 hfirst
  refine (resolveTarget_release_eq_error_iff (Project.rangeTo_release_of_version? hq k)).2 ⟨rfl, ?_⟩
  rintro v ⟨hpublished, hstable, hrange⟩
  -- a candidate for the second upgrade was one for the first, and is above its outcome
  have hbefore : Eligible available (Range.ofRelease c k) v :=
    ⟨hpublished, hstable, Range.contains_of_contains_again hk heligible.stable heligible.inRange hrange⟩
  have hle := hgreatest v hbefore
  rw [order_gt_of_precedence_lt (Range.lt_of_contains_ofRelease hrange)] at hle
  cases hle

/-- From a prerelease in the middle of a line to the last release of the line. -/
theorem resolveTarget_converges_prerelease :
    let c : Version := ⟨4, 1, 2, [.word ⟨"rc", rfl⟩, .number 1], []⟩
    let rebuilt : Version := ⟨4, 3, 0, [], [⟨"b", rfl⟩]⟩
    let available : List Version := [.release 5 0 0, rebuilt, .release 4 3 0, .release 4 1 2]
    resolveTarget (.release .minor) (applicationOf c) available = .ok rebuilt ∧
      resolveTarget (.release .minor) (applicationOf rebuilt) available
        = .error (.noCandidate "core" (Range.ofRelease rebuilt .minor)) := by
  intro c rebuilt available
  have hfirst : resolveTarget (.release .minor) (applicationOf c) available = .ok rebuilt := rfl
  exact ⟨hfirst, resolveTarget_converges (q := applicationOf rebuilt) (by decide) rfl rfl hfirst⟩

end Uplift.Upgrade
