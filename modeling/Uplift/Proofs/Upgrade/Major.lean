import Uplift.Proofs.Requirement
import Uplift.Proofs.Upgrade.Best

set_option autoImplicit false

/-! # Major upgrades and their requirements

Two rules say what a major upgrade of an application needs. The target is the first release of the next
line, where a prerelease of `X.0.0` is taken to lead to `X.0.0` (`of_resolveTarget_major`). The
requirements ask for the newest release of the current line instead, where newer means later in the
total order. `major_requirements_iff` says where the two agree: a prerelease of `X.0.0` never meets the
requirements, since the target itself is newer in its line, and a release never does once it was
published again with greater build metadata. -/

namespace Uplift

open Version

/-! ## Newer releases of a line -/

namespace UpgradeContext

variable {available : List Version} {c t : Version}

/-- Apart from `t`, no release of the line of `c` is above it. -/
def NewestBut (available : List Version) (c t : Version) : Prop :=
  ∀ v ∈ available, v.isStable = true → v.major = c.major → c.precedence v = .lt → v = t

instance : Decidable (NewestBut available c t) := inferInstanceAs <| Decidable <|
  ∀ v ∈ available, v.isStable = true → v.major = c.major → c.precedence v = .lt → v = t

/-- The release `c` was published again, with greater build metadata. -/
def Rebuilt (available : List Version) (c : Version) : Prop :=
  ∃ v ∈ available, v.isStable = true ∧ c.precedence v = .eq ∧ v.order c = .gt

instance : Decidable (Rebuilt available c) := inferInstanceAs <| Decidable <|
  ∃ v ∈ available, v.isStable = true ∧ c.precedence v = .eq ∧ v.order c = .gt

theorem mem_newerInLine {v : Version} : v ∈ newerInLine available c ↔
    v ∈ available ∧ v.major = c.major ∧ v.isStable = true ∧ v.order c = .gt := by
  simp [newerInLine, and_assoc]

/-- Newer releases of the line of `c` are above it or rebuild it. -/
theorem newerInLine_eq_nil_iff (ht : t.major ≠ c.major) :
    newerInLine available c = [] ↔ NewestBut available c t ∧ ¬ Rebuilt available c := by
  rw [List.eq_nil_iff_forall_not_mem]
  constructor
  · intro hnone
    refine ⟨fun v hv hstable hmajor hlt => ?_, ?_⟩
    · exact absurd (mem_newerInLine.2 ⟨hv, hmajor, hstable, order_gt_of_precedence_lt hlt⟩) (hnone v)
    · rintro ⟨v, hv, hstable, heq, hgt⟩
      exact hnone v (mem_newerInLine.2 ⟨hv, (precedence_eq_iff.1 heq).1.symm, hstable, hgt⟩)
  · rintro ⟨hnewest, hrebuilt⟩ v hv
    obtain ⟨hv, hmajor, hstable, hgt⟩ := mem_newerInLine.1 hv
    rcases Ordering.isLE_iff_eq_lt_or_eq_eq.1 (isLE_precedence_of_order_gt hgt) with hlt | heq
    · rw [hnewest v hv hstable hmajor hlt] at hmajor
      exact ht hmajor
    · exact hrebuilt ⟨v, hv, hstable, heq, hgt⟩

/-! ## Testing the requirements -/

variable {ctx : UpgradeContext} {confirm : Confirm} {seen : List Inquiry}

/-- Why `c` is not the newest release of its line. -/
def outdated (c latest : Version) : Error :=
  .requirementFailed "current version is the latest of its major"
    (c.text ++ " is not the latest " ++ Text.decimal c.major.toNat ++ ".x release; upgrade to "
      ++ latest.text ++ " first")

/-- The test ends with a newer release of the line, if there is one. -/
theorem testAll_major_of_newer {latest : Version} (hcurrent : ctx.current = some c)
    (hlatest : greatest? (newerInLine ctx.available c) = some latest) :
    (Requirement.testAll ctx confirm UpgradeRequirement.major seen).1 = .error (outdated c latest) := by
  have hcheck : ctx.checkNewest = .error ⟨c.text ++ " is not the latest "
      ++ Text.decimal c.major.toNat ++ ".x release; upgrade to " ++ latest.text ++ " first", []⟩ := by
    simp only [checkNewest, hcurrent, hlatest]
  simp only [UpgradeRequirement.major, Requirement.testAll, Requirement.test, hcheck, if_true]
  rfl

/-- The test succeeds if there is none and a release of the next line was published. -/
theorem testAll_major_of_newest {v : Version} (hcurrent : ctx.current = some c)
    (hnewest : newerInLine ctx.available c = []) (hv : v ∈ ctx.available) (hstable : v.isStable = true)
    (hmajor : v.major = c.major + 1) :
    (Requirement.testAll ctx confirm UpgradeRequirement.major seen).1 = .ok () := by
  have hcheck : ctx.checkNewest = .ok () := by
    simp only [checkNewest, hcurrent, hnewest, greatest?]
  have hany : (ctx.available.any fun v => v.major = ctx.nextLine && v.isStable) = true :=
    List.any_eq_true.2 ⟨v, hv, by simp [nextLine, hcurrent, hmajor, hstable]⟩
  have hnext : ctx.checkNextLine = .ok () := if_pos hany
  simp only [UpgradeRequirement.major, Requirement.testAll, Requirement.test, hcheck, hnext]

end UpgradeContext

/-! ## Targets -/

namespace Upgrade

open UpgradeContext

variable {p : Project} {available : List Version} {c t : Version}

/-- A major upgrade of an application leads to a published release, which is the first one of the next
    line up to build metadata. -/
theorem of_resolveTarget_major (hversion : p.version? = some c)
    (htarget : resolveTarget (.release .major) p available = .ok t) :
    t ∈ available ∧ t.isStable = true ∧ c.precedence t = .lt ∧ c.nextMajor.precedence t = .eq := by
  have hrange := Project.rangeTo_release_of_version? hversion .major
  obtain ⟨⟨hmem, hstable, hcontains⟩, -⟩ := (resolveTarget_release_eq_ok_iff hrange).1 htarget
  exact ⟨hmem, hstable, Range.lt_of_contains_ofRelease hcontains,
    Range.nextMajor_of_contains_major hstable hcontains⟩

/-- From a prerelease of `X.0.0` a major upgrade leads to a release of the same line. -/
theorem mem_newerInLine_of_opensLine (hversion : p.version? = some c)
    (htarget : resolveTarget (.release .major) p available = .ok t) (hopens : c.opensLine = true) :
    t ∈ newerInLine available c := by
  obtain ⟨hmem, hstable, hlt, heq⟩ := of_resolveTarget_major hversion htarget
  rw [nextMajor_of_opensLine hopens] at heq
  exact mem_newerInLine.2
    ⟨hmem, (precedence_eq_iff.1 heq).1.symm, hstable, order_gt_of_precedence_lt hlt⟩

/-- From every other version it leads to the line after its own. -/
theorem major_of_not_opensLine (hversion : p.version? = some c)
    (htarget : resolveTarget (.release .major) p available = .ok t) (hopens : c.opensLine = false) :
    t.major = c.major + 1 := by
  obtain ⟨-, -, -, heq⟩ := of_resolveTarget_major hversion htarget
  rw [nextMajor_of_not_opensLine hopens] at heq
  exact (precedence_eq_iff.1 heq).1.symm

theorem major_ne_of_not_opensLine (hversion : p.version? = some c)
    (htarget : resolveTarget (.release .major) p available = .ok t) (hopens : c.opensLine = false) :
    t.major ≠ c.major := by
  rw [major_of_not_opensLine hversion htarget hopens]
  exact fun heq => absurd heq (by grind)

theorem resolveTarget_exact_eq_invalid_iff {v : Version} (hversion : p.version? = some c) :
    resolveTarget (.exact v) p available = .error (.domain (.invalidTarget c v)) ↔
      c.precedence v ≠ .lt := by
  rw [resolveTarget_exact_eq_error_iff, ne_eq, ← above_iff]
  simp [hversion]

/-- The release that the requirements ask for is the target itself only for a prerelease of `X.0.0`.
    Where it should not be asked for, it is the target, or no upgrade can lead to it. -/
theorem newerInLine_cases {latest : Version} (hversion : p.version? = some c)
    (htarget : resolveTarget (.release .major) p available = .ok t)
    (hlatest : latest ∈ newerInLine available c) :
    (latest = t → c.opensLine = true) ∧
      (NewestBut available c t → c.opensLine = true ∧ latest = t ∨
        c.opensLine = false ∧ c.precedence latest = .eq) := by
  obtain ⟨hmem, hmajor, hstable, hgt⟩ := mem_newerInLine.1 hlatest
  have hle := Ordering.isLE_iff_eq_lt_or_eq_eq.1 (isLE_precedence_of_order_gt hgt)
  cases hopens : c.opensLine with
  | false =>
    have hne : latest ≠ t := by
      rintro rfl
      exact major_ne_of_not_opensLine hversion htarget hopens hmajor
    refine ⟨fun heq => absurd heq hne, fun hnewest => .inr ⟨rfl, ?_⟩⟩
    exact hle.resolve_left fun hlt => hne (hnewest latest hmem hstable hmajor hlt)
  | true =>
    refine ⟨fun _ => rfl, fun hnewest => .inl ⟨rfl, ?_⟩⟩
    -- a release is never a rebuild of a prerelease
    rcases hle with hlt | heq
    · exact hnewest latest hmem hstable hmajor hlt
    · have hpre : c.isStable = true := by
        rw [isStable, (precedence_eq_iff.1 heq).2.2.2]
        exact hstable
      simp [opensLine, hpre] at hopens

/-- **Target and requirements of a major upgrade agree, but for two kinds of installed versions.** Let
    the major upgrade of an application lead to `t`. Its requirements are met exactly when no release of
    the current line other than `t` is above the current version `c`, `c` is no prerelease of `X.0.0`,
    and `c` was not published again with greater build metadata. If they are not met, the user is told to
    upgrade to some published release of the current line first. This is `t` only if `c` is a prerelease
    of `X.0.0`, and an exact upgrade to it is refused as invalid exactly when it rebuilds `c`. One of
    these is what happens whenever the requirements fail without another release above `c`. -/
theorem major_requirements_iff (git : Git) (confirm : Confirm) (seen : List Inquiry)
    (hversion : p.version? = some c)
    (htarget : resolveTarget (.release .major) p available = .ok t) :
    let ctx : UpgradeContext := { cwd := p.cwd, current := p.version?, target := t, available, git }
    let outcome := (Requirement.testAll ctx confirm UpgradeRequirement.major seen).1
    (outcome = .ok () ↔
      NewestBut available c t ∧ c.opensLine = false ∧ ¬ Rebuilt available c) ∧
    ∀ e, outcome = .error e → ∃ latest ∈ available, e = outdated c latest ∧
      latest.isStable = true ∧ latest.major = c.major ∧ (latest = t → c.opensLine = true) ∧
      (resolveTarget (.exact latest) p available = .error (.domain (.invalidTarget c latest)) ↔
        c.precedence latest = .eq) ∧
      (NewestBut available c t → c.opensLine = true ∧ latest = t ∨
        c.opensLine = false ∧ c.precedence latest = .eq) := by
  intro ctx outcome
  obtain ⟨hmem, hstable, -, -⟩ := of_resolveTarget_major hversion htarget
  cases hlatest : greatest? (newerInLine available c) with
  | none =>
    have hnone : newerInLine available c = [] := greatest?_eq_none_iff.1 hlatest
    -- the target of a prerelease of `X.0.0` would itself be newer in the line
    have hopens : c.opensLine = false := by
      refine Bool.eq_false_iff.2 fun hopens => ?_
      have := mem_newerInLine_of_opensLine hversion htarget hopens
      rw [hnone] at this
      cases this
    have hok : outcome = .ok () := testAll_major_of_newest hversion hnone hmem hstable
      (major_of_not_opensLine hversion htarget hopens)
    obtain ⟨hnewest, hrebuilt⟩ :=
      (newerInLine_eq_nil_iff (major_ne_of_not_opensLine hversion htarget hopens)).1 hnone
    refine ⟨iff_of_true hok ⟨hnewest, hopens, hrebuilt⟩, fun e he => ?_⟩
    rw [hok] at he
    cases he
  | some latest =>
    have herror : outcome = .error (outdated c latest) := testAll_major_of_newer hversion hlatest
    have hnewer := mem_of_greatest? hlatest
    refine ⟨⟨fun hok => ?_, fun ⟨hnewest, hopens, hrebuilt⟩ => ?_⟩, fun e he => ?_⟩
    · rw [herror] at hok
      cases hok
    · rw [(newerInLine_eq_nil_iff (major_ne_of_not_opensLine hversion htarget hopens)).2
        ⟨hnewest, hrebuilt⟩] at hnewer
      cases hnewer
    · rw [herror] at he
      obtain ⟨havailable, hmajor, hlateststable, hgt⟩ := mem_newerInLine.1 hnewer
      obtain ⟨htold, hwrong⟩ := newerInLine_cases hversion htarget hnewer
      refine ⟨latest, havailable, (Except.error.inj he).symm, hlateststable, hmajor, htold, ?_, hwrong⟩
      rw [resolveTarget_exact_eq_invalid_iff hversion]
      have hle := Ordering.isLE_iff_eq_lt_or_eq_eq.1 (isLE_precedence_of_order_gt hgt)
      exact ⟨fun hne => hle.resolve_left hne, fun heq => by rw [heq]; decide⟩

/-- What the requirements of a major upgrade see of an application. -/
def majorContext (c : Version) (available : List Version) (target : Version) : UpgradeContext where
  cwd := (applicationOf c).cwd
  current := (applicationOf c).version?
  target := target
  available := available
  git := { installed := .ok false, repository := .ok false, changed := .ok none }

/-- From a prerelease in the middle of a line, above which the line has prereleases only, the upgrade
    may go on to the next line. -/
theorem major_requirements_iff_prerelease :
    let c : Version := ⟨4, 1, 0, [.word ⟨"rc", rfl⟩, .number 1], []⟩
    let available : List Version :=
      [.release 4 0 9, ⟨4, 1, 0, [.word ⟨"rc", rfl⟩, .number 2], []⟩, .release 5 0 0, .release 5 1 0]
    resolveTarget (.release .major) (applicationOf c) available = .ok (.release 5 0 0) ∧
      NewestBut available c (.release 5 0 0) ∧ c.opensLine = false ∧ ¬ Rebuilt available c ∧
      (Requirement.testAll (majorContext c available (.release 5 0 0)) (fun _ _ => .ok false)
        UpgradeRequirement.major []).1 = .ok () := by
  intro c available
  have htarget : resolveTarget (.release .major) (applicationOf c) available
      = .ok (.release 5 0 0) := rfl
  have hmet : NewestBut available c (.release 5 0 0) ∧ c.opensLine = false ∧ ¬ Rebuilt available c := by
    decide
  have hiff := (major_requirements_iff (majorContext c available (.release 5 0 0)).git
    (fun _ _ => .ok false) [] rfl htarget).1
  exact ⟨htarget, hmet.1, hmet.2.1, hmet.2.2, hiff.2 hmet⟩

/-- Where the two part. With `5.0.0` alone published, an application at `5.0.0-rc.1` is told to upgrade to
    the target first. With `4.0.0+b` and `5.0.0` published, one at `4.0.0` is told to upgrade to `4.0.0+b`
    first, and that upgrade is refused as invalid. In both cases no other release of the line is above
    the current version. -/
theorem major_requirements_of_opening_and_rebuilt :
    let opening : Version := ⟨5, 0, 0, [.word ⟨"rc", rfl⟩, .number 1], []⟩
    let rebuilt : Version := ⟨4, 0, 0, [], [⟨"b", rfl⟩]⟩
    let t : Version := .release 5 0 0
    (resolveTarget (.release .major) (applicationOf opening) [t] = .ok t ∧
      NewestBut [t] opening t ∧
      (Requirement.testAll (majorContext opening [t] t) (fun _ _ => .ok false)
        UpgradeRequirement.major []).1 = .error (outdated opening t)) ∧
    (resolveTarget (.release .major) (applicationOf (.release 4 0 0)) [rebuilt, t] = .ok t ∧
      NewestBut [rebuilt, t] (.release 4 0 0) t ∧
      (Requirement.testAll (majorContext (.release 4 0 0) [rebuilt, t] t) (fun _ _ => .ok false)
        UpgradeRequirement.major []).1 = .error (outdated (.release 4 0 0) rebuilt) ∧
      resolveTarget (.exact rebuilt) (applicationOf (.release 4 0 0)) [rebuilt, t]
        = .error (.domain (.invalidTarget (.release 4 0 0) rebuilt))) := by
  refine ⟨⟨rfl, by decide, rfl⟩, rfl, by decide, rfl, rfl⟩

end Upgrade

end Uplift
