import Uplift.Proofs.Range

set_option autoImplicit false

/-! # Ranges that end with a line

Versions with the same major number are a *line*, and those of them with the same minor number a line
within it. No prerelease tag is less than `-0`, so a version below the floor of the first release of a
line has smaller numbers (`lt_floor_iff`). A minor upgrade stops below the floor of the next major
release, a patch upgrade below that of the next minor one. This is the rest of the current line, except
where the current version is itself a prerelease of the first release: what is taken for the next release
is then the one that the line starts with, and there is nothing between (`contains_rest_of_line`).

A major upgrade starts at the floor of the next major release, or at the current version if that is a
prerelease of it, and ends with the release. With either start it leads to the release and those of its
prereleases that are above the current version (`ranges_lead_forward`). -/

namespace Uplift

open Std

/-! ## The start of a line -/

theorem cmpPre_zero_ne_lt (ps : List PrePart) : cmpPre ps [.number 0] ≠ .lt := by
  cases ps with
  | nil => simp [cmpPre]
  | cons p ps =>
    cases p with
    | word w => simp [cmpPre, List.compareLex, PrePart.cmp]
    | number n =>
      -- parts after a `0` only make the tag greater
      have htail : List.compareLex PrePart.cmp ps [] ≠ .lt := by
        cases ps <;> simp [List.compareLex]
      have hhead : compare n 0 ≠ .lt := by simp [Nat.compare_eq_lt]
      cases hn : compare n 0 with
      | lt => exact absurd hn hhead
      | eq => simpa [cmpPre, List.compareLex, PrePart.cmp, hn] using htail
      | gt => simp [cmpPre, List.compareLex, PrePart.cmp, hn]

namespace Version

/-- A prerelease of the first release of a major line. -/
def opensLine (v : Version) : Bool := !v.isStable && v.minor == 0 && v.patch == 0

/-- A prerelease of the first release of a minor line. -/
def opensMinorLine (v : Version) : Bool := !v.isStable && v.patch == 0

theorem nextMajor_of_opensLine {v : Version} (h : v.opensLine = true) :
    v.nextMajor = release v.major 0 0 := if_pos h

theorem nextMajor_of_not_opensLine {v : Version} (h : v.opensLine = false) :
    v.nextMajor = release (v.major + 1) 0 0 := if_neg (Bool.eq_false_iff.1 h)

theorem nextMinor_of_opensMinorLine {v : Version} (h : v.opensMinorLine = true) :
    v.nextMinor = release v.major v.minor 0 := if_pos h

theorem nextMinor_of_not_opensMinorLine {v : Version} (h : v.opensMinorLine = false) :
    v.nextMinor = release v.major (v.minor + 1) 0 := if_neg (Bool.eq_false_iff.1 h)

theorem opensLine_of_isStable {v : Version} (h : v.isStable = true) : v.opensLine = false := by
  simp [opensLine, h]

theorem opensMinorLine_of_isStable {v : Version} (h : v.isStable = true) :
    v.opensMinorLine = false := by
  simp [opensMinorLine, h]

theorem precedence_eq_lt_iff {v w : Version} : v.precedence w = .lt ↔
    v.major < w.major ∨ v.major = w.major ∧ (v.minor < w.minor ∨ v.minor = w.minor ∧
      (v.patch < w.patch ∨ v.patch = w.patch ∧ cmpPre v.pre w.pre = .lt)) := by
  simp only [precedence, Ordering.then_eq_lt, Std.compare_eq_lt, Std.compare_eq_iff_eq]

theorem lt_floor_iff {v w : Version} : v.precedence w.floor = .lt ↔
    v.major < w.major ∨ v.major = w.major ∧ (v.minor < w.minor ∨ v.minor = w.minor ∧
      v.patch < w.patch) := by
  rw [precedence_eq_lt_iff]
  simp [floor, cmpPre_zero_ne_lt]

theorem precedence_of_numbers_eq {v w : Version} (hmajor : v.major = w.major)
    (hminor : v.minor = w.minor) (hpatch : v.patch = w.patch) :
    v.precedence w = cmpPre v.pre w.pre := by
  simp only [precedence, hmajor, hminor, hpatch, ReflCmp.compare_self, Ordering.eq_then]

/-- From the least version with the numbers of a release up to the release are the versions with these
    numbers. -/
theorem between_floor_iff {v w : Version} (hstable : w.isStable = true) :
    (w.floor.precedence v).isLE = true ∧ (v.precedence w).isLE = true ↔
      v.major = w.major ∧ v.minor = w.minor ∧ v.patch = w.patch := by
  constructor
  · rintro ⟨hlo, hhi⟩
    obtain ⟨hmajor, hminor, hpatch⟩ := numbers_eq_of_floor hlo hhi
    exact ⟨hmajor.symm, hminor.symm, hpatch.symm⟩
  · rintro ⟨hmajor, hminor, hpatch⟩
    constructor
    · rw [isLE_iff_not_lt, precedence_of_numbers_eq (w := w.floor) hmajor hminor hpatch]
      exact cmpPre_zero_ne_lt v.pre
    · -- a release follows all its prereleases
      rw [precedence_of_numbers_eq hmajor hminor hpatch, List.isEmpty_iff.1 hstable]
      cases v.pre <;> rfl

theorem lt_floor_major_iff {v : Version} {major : UInt64} :
    v.precedence (release major 0 0).floor = .lt ↔ v.major < major := by
  simp [lt_floor_iff, release]

theorem lt_floor_minor_iff {v : Version} {major minor : UInt64} :
    v.precedence (release major minor 0).floor = .lt ↔
      v.major < major ∨ v.major = major ∧ v.minor < minor := by
  simp [lt_floor_iff, release]

theorem lt_add_one_iff {m n : UInt64} (hroom : n.toNat + 1 < UInt64.size) : m < n + 1 ↔ m ≤ n := by
  have hsucc : (n + 1).toNat = n.toNat + 1 := by
    rw [UInt64.toNat_add]
    exact Nat.mod_eq_of_lt hroom
  rw [UInt64.lt_iff_toNat_lt, UInt64.le_iff_toNat_le, hsucc]
  omega

theorem le_of_lt_add_one {m n : UInt64} (h : m < n + 1) : m ≤ n := by
  rw [UInt64.lt_iff_toNat_lt, UInt64.toNat_add] at h
  have hmod : (n.toNat + (1 : UInt64).toNat) % 2 ^ 64 ≤ n.toNat + 1 := Nat.mod_le _ _
  rw [UInt64.le_iff_toNat_le]
  omega

/-- A higher version is in the same line or in a later one. -/
theorem le_of_precedence_lt {c v : Version} (h : c.precedence v = .lt) :
    c.major ≤ v.major ∧ (c.major = v.major → c.minor ≤ v.minor) := by
  rcases precedence_eq_lt_iff.1 h with hmajor | ⟨hmajor, hminor | ⟨hminor, -⟩⟩
  · exact ⟨UInt64.le_of_lt hmajor, fun heq => absurd hmajor (by simp [heq])⟩
  · exact ⟨by simp [hmajor], fun _ => UInt64.le_of_lt hminor⟩
  · exact ⟨by simp [hmajor], fun _ => by simp [hminor]⟩

end Version

/-! ## The rest of a line -/

namespace Range

open Version

variable {c v : Version}

/-- From a prerelease of `X.0.0`, no version is in reach of a minor upgrade. -/
theorem contains_minor_of_opensLine (hopens : c.opensLine = true) :
    (ofRelease c .minor).contains v = false := by
  refine Bool.eq_false_iff.2 fun hmem => ?_
  obtain ⟨hlt, hupper⟩ := contains_minor_iff.1 hmem
  rw [nextMajor_of_opensLine hopens, lt_floor_major_iff] at hupper
  exact absurd hupper (UInt64.not_lt.2 (le_of_precedence_lt hlt).1)

/-- From a prerelease of `X.Y.0`, no version is in reach of a patch upgrade. -/
theorem contains_patch_of_opensMinorLine (hopens : c.opensMinorLine = true) :
    (ofRelease c .patch).contains v = false := by
  refine Bool.eq_false_iff.2 fun hmem => ?_
  obtain ⟨hlt, hupper⟩ := contains_patch_iff.1 hmem
  obtain ⟨hmajor, hminor⟩ := le_of_precedence_lt hlt
  rw [nextMinor_of_opensMinorLine hopens, lt_floor_minor_iff] at hupper
  rcases hupper with hupper | ⟨heq, hupper⟩
  · exact absurd hupper (UInt64.not_lt.2 hmajor)
  · exact absurd hupper (UInt64.not_lt.2 (hminor heq.symm))

theorem contains_minor_of_not_opensLine (hopens : c.opensLine = false)
    (hroom : c.major.toNat + 1 < UInt64.size) :
    (ofRelease c .minor).contains v = true ↔ c.precedence v = .lt ∧ v.major = c.major := by
  rw [contains_minor_iff, nextMajor_of_not_opensLine hopens, lt_floor_major_iff, lt_add_one_iff hroom]
  refine and_congr_right fun hlt => ?_
  have hle := (le_of_precedence_lt hlt).1
  exact ⟨fun hge => UInt64.le_antisymm hge hle, fun heq => by simp [heq]⟩

theorem contains_patch_of_not_opensMinorLine (hopens : c.opensMinorLine = false)
    (hroom : c.minor.toNat + 1 < UInt64.size) :
    (ofRelease c .patch).contains v = true ↔
      c.precedence v = .lt ∧ v.major = c.major ∧ v.minor = c.minor := by
  rw [contains_patch_iff, nextMinor_of_not_opensMinorLine hopens, lt_floor_minor_iff,
    lt_add_one_iff hroom]
  refine and_congr_right fun hlt => ?_
  obtain ⟨hmajor, hminor⟩ := le_of_precedence_lt hlt
  constructor
  · rintro (hearlier | ⟨heq, hge⟩)
    · exact absurd hearlier (UInt64.not_lt.2 hmajor)
    · exact ⟨heq, UInt64.le_antisymm hge (hminor heq.symm)⟩
  · rintro ⟨heq, hsame⟩
    exact .inr ⟨heq, by simp [hsame]⟩

/-- **Minor and patch upgrades lead to the rest of the line, except from its opening prereleases.** Let the
    numbers of `c` be followed by others. A minor upgrade from `c` reaches exactly the versions of higher
    precedence with the same major number, a patch upgrade exactly those with the same major and minor
    number. But a minor upgrade from a prerelease of `X.0.0` reaches nothing, nor does a patch upgrade
    from a prerelease of `X.Y.0`. -/
theorem contains_rest_of_line (hmajor : c.major.toNat + 1 < UInt64.size)
    (hminor : c.minor.toNat + 1 < UInt64.size) (v : Version) :
    ((ofRelease c .minor).contains v = true ↔
      (v.above c = true ∧ v.major = c.major) ∧ c.opensLine = false) ∧
    ((ofRelease c .patch).contains v = true ↔
      (v.above c = true ∧ v.major = c.major ∧ v.minor = c.minor) ∧ c.opensMinorLine = false) := by
  rw [above_iff]
  constructor
  · cases hopens : c.opensLine with
    | true => simp [contains_minor_of_opensLine hopens]
    | false => simp [contains_minor_of_not_opensLine hopens hmajor]
  · cases hopens : c.opensMinorLine with
    | true => simp [contains_patch_of_opensMinorLine hopens]
    | false => simp [contains_patch_of_not_opensMinorLine hopens hminor]

/-- A prerelease in the middle of a line. Its own release and the last prerelease of the line are in
    reach of a minor upgrade, the first prerelease of the next line is not; a patch upgrade stops before
    the next minor release. -/
theorem contains_rest_of_line_prerelease :
    let c : Version := ⟨4, 1, 2, [.word ⟨"rc", rfl⟩, .number 1], [⟨"b", rfl⟩]⟩
    (c.opensLine = false ∧ c.opensMinorLine = false) ∧
      (ofRelease c .minor).contains (release 4 1 2) = true ∧
      (ofRelease c .minor).contains ⟨4, 9, 0, [.number 0], []⟩ = true ∧
      ¬ (ofRelease c .minor).contains ⟨5, 0, 0, [.number 0], []⟩ = true ∧
      (ofRelease c .patch).contains (release 4 1 3) = true ∧
      ¬ (ofRelease c .patch).contains ⟨4, 2, 0, [.number 0], []⟩ = true := by
  intro c
  have hiff := contains_rest_of_line (c := c) (by decide) (by decide)
  refine ⟨by decide, (hiff _).1.2 (by decide), (hiff _).1.2 (by decide), ?_, (hiff _).2.2 (by decide), ?_⟩
  · rw [(hiff _).1]
    decide
  · rw [(hiff _).2]
    decide

/-- From `5.0.0-rc.1` a minor upgrade does not even reach `5.0.0` or `5.1.0`, and from `5.3.0-rc.1` a
    patch upgrade does not reach `5.3.0` or `5.3.1`: versions of higher precedence in the same line. -/
theorem contains_from_opening_prerelease :
    let opening : Version := ⟨5, 0, 0, [.word ⟨"rc", rfl⟩, .number 1], []⟩
    let minor : Version := ⟨5, 3, 0, [.word ⟨"rc", rfl⟩, .number 1], []⟩
    (∀ v ∈ [release 5 0 0, release 5 1 0], v.above opening = true ∧ v.major = opening.major ∧
      (ofRelease opening .minor).contains v = false) ∧
    (∀ v ∈ [release 5 3 0, release 5 3 1], v.above minor = true ∧ v.major = minor.major ∧
      v.minor = minor.minor ∧ (ofRelease minor .patch).contains v = false) := by
  decide

/-! ## The first release of the next line -/

theorem ofTarget_exact_eq_ok_iff {target : Version} {range : Range} :
    ofTarget c (.exact target) = .ok range ↔ target.above c = true ∧ range = between c target := by
  cases habove : target.above c with
  | true =>
    simp only [ofTarget, habove, if_true, Except.ok.injEq, true_and]
    exact eq_comm
  | false => simp [ofTarget, habove]

/-- **Derived ranges lead forward.** What a release type stands for has higher precedence than the version
    `c` that it is seen from. An exact target is accepted exactly when it has itself higher precedence,
    and then stands for what is above `c` and not above the target. A major upgrade leads exactly to the
    versions above `c` with the numbers of the next major release: the release and its prereleases. -/
theorem ranges_lead_forward (c : Version) :
    (∀ (r : Release) (v : Version), (ofRelease c r).contains v = true → v.above c = true) ∧
    (∀ (target : Version) (range : Range), ofTarget c (.exact target) = .ok range →
      ∀ v, range.contains v = true ↔ v.above c = true ∧ v.above target = false) ∧
    (∀ target : Version,
      (∃ range, ofTarget c (.exact target) = .ok range) ↔ target.above c = true) ∧
    (∀ v : Version, (ofRelease c .major).contains v = true ↔ v.above c = true ∧
      v.major = c.nextMajor.major ∧ v.minor = c.nextMajor.minor ∧ v.patch = c.nextMajor.patch) := by
  refine ⟨fun r v hmem => ?_, fun target range haccepted v => ?_, fun target => ?_, fun v => ?_⟩
  · exact above_iff.2 (lt_of_contains_ofRelease hmem)
  · obtain ⟨-, rfl⟩ := ofTarget_exact_eq_ok_iff.1 haccepted
    rw [contains_between, above_iff, ← Bool.not_eq_true, above_iff, isLE_iff_not_lt]
  · simp [ofTarget_exact_eq_ok_iff]
  · rw [contains_major_iff, and_assoc, above_iff, between_floor_iff c.isStable_nextMajor]

/-- From a prerelease of `5.0.0`, which is in the next line already, a major upgrade leads to the later
    prereleases and to `5.0.0` in any build, but not back to an earlier prerelease nor on to `5.0.1`. The
    exact target `5.0.0` is accepted, and what it stands for is above the prerelease. -/
theorem ranges_lead_forward_prerelease :
    let c : Version := ⟨5, 0, 0, [.word ⟨"rc", rfl⟩, .number 1], [⟨"b", rfl⟩]⟩
    ofTarget c (.exact (release 5 0 0)) = .ok (between c (release 5 0 0)) ∧
      (between c (release 5 0 0)).contains ⟨5, 0, 0, [.word ⟨"rc", rfl⟩, .number 10], []⟩ = true ∧
      (ofRelease c .major).contains ⟨5, 0, 0, [.word ⟨"rc", rfl⟩, .number 10], []⟩ = true ∧
      (ofRelease c .major).contains ⟨5, 0, 0, [], [⟨"b", rfl⟩]⟩ = true ∧
      ¬ (ofRelease c .major).contains ⟨5, 0, 0, [.number 0], []⟩ = true ∧
      ¬ (ofRelease c .major).contains (release 5 0 1) = true := by
  intro c
  obtain ⟨-, hexact, -, hmajor⟩ := ranges_lead_forward c
  have haccepted : ofTarget c (.exact (release 5 0 0)) = .ok (between c (release 5 0 0)) := rfl
  refine ⟨haccepted, (hexact _ _ haccepted _).2 (by decide), (hmajor _).2 (by decide),
    (hmajor _).2 (by decide), ?_, ?_⟩
  · rw [hmajor]
    decide
  · rw [hmajor]
    decide

/-! ## The same upgrade again

A minor or patch upgrade stays in the line, so seen from the release that it leads to the line ends where
it did before. -/

variable {t : Version}

theorem nextMajor_of_contains_minor (hstable : t.isStable = true)
    (ht : (ofRelease c .minor).contains t = true) : t.nextMajor = c.nextMajor := by
  cases hopens : c.opensLine with
  | true =>
    rw [contains_minor_of_opensLine hopens] at ht
    cases ht
  | false =>
    obtain ⟨hforward, hupper⟩ := contains_minor_iff.1 ht
    rw [nextMajor_of_not_opensLine hopens, lt_floor_major_iff] at hupper
    have hmajor : t.major = c.major :=
      UInt64.le_antisymm (le_of_lt_add_one hupper) (le_of_precedence_lt hforward).1
    rw [nextMajor_of_not_opensLine hopens, nextMajor_of_not_opensLine (opensLine_of_isStable hstable),
      hmajor]

theorem nextMinor_of_contains_patch (hstable : t.isStable = true)
    (ht : (ofRelease c .patch).contains t = true) : t.nextMinor = c.nextMinor := by
  cases hopens : c.opensMinorLine with
  | true =>
    rw [contains_patch_of_opensMinorLine hopens] at ht
    cases ht
  | false =>
    obtain ⟨hforward, hupper⟩ := contains_patch_iff.1 ht
    obtain ⟨hmajor, hminor⟩ := le_of_precedence_lt hforward
    rw [nextMinor_of_not_opensMinorLine hopens, lt_floor_minor_iff] at hupper
    rcases hupper with hearlier | ⟨hsame, hupper⟩
    · exact absurd hearlier (UInt64.not_lt.2 hmajor)
    · have hminor : t.minor = c.minor :=
        UInt64.le_antisymm (le_of_lt_add_one hupper) (hminor hsame.symm)
      rw [nextMinor_of_not_opensMinorLine hopens,
        nextMinor_of_not_opensMinorLine (opensMinorLine_of_isStable hstable), hsame, hminor]

/-- Where a minor, patch or latest upgrade leads from a release that the same upgrade led to, that led
    before. -/
theorem contains_of_contains_again {k : Release} (hk : k ≠ .major) (hstable : t.isStable = true)
    (ht : (ofRelease c k).contains t = true) (hv : (ofRelease t k).contains v = true) :
    (ofRelease c k).contains v = true := by
  have hforward : c.precedence v = .lt :=
    TransCmp.lt_trans (lt_of_contains_ofRelease ht) (lt_of_contains_ofRelease hv)
  cases k with
  | major => exact absurd rfl hk
  | minor =>
    rw [contains_minor_iff, ← nextMajor_of_contains_minor hstable ht]
    exact ⟨hforward, (contains_minor_iff.1 hv).2⟩
  | patch =>
    rw [contains_patch_iff, ← nextMinor_of_contains_patch hstable ht]
    exact ⟨hforward, (contains_patch_iff.1 hv).2⟩
  | latest => exact contains_after.2 hforward

end Range

end Uplift
