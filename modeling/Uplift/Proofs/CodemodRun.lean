import Uplift.CodemodRun
import Uplift.Proofs.List
import Uplift.Proofs.Range
import Uplift.Proofs.Repository
import Uplift.Proofs.Runner

set_option autoImplicit false

/-! # Running codemods in steps

A range that is cut in two at a version has the collections of its lower part, followed by those of
its upper part (`inRange_append`). This is more than that the parts make up the range: collections are
listed in the total order of versions, while ranges go by precedence. All versions that differ from the
cut in build metadata alone are in the lower part, and the total order has them before all versions
above.

Codemods are run one after the other on one world. So a run over the range is a run over the lower part
and, from the world that this has left, a run over the upper part (`runRange_stepwise`). -/

namespace Uplift

open Std

/-! ## Ranges cut in two -/

/-- A range is cut in two at a version: the lower part has what is not above the version, the upper part
    what is. -/
structure Range.CutAt (whole lower upper : Range) (b : Version) : Prop where
  split : ∀ v, whole.contains v = (lower.contains v || upper.contains v)
  lower_le : ∀ v, lower.contains v = true → (v.precedence b).isLE = true
  upper_gt : ∀ v, upper.contains v = true → b.precedence v = .lt

theorem Range.between_cutAt {a b c : Version} (hab : (a.precedence b).isLE = true)
    (hbc : (b.precedence c).isLE = true) : CutAt (between a c) (between a b) (between b c) b where
  split v := by
    rw [Bool.eq_iff_iff, Bool.or_eq_true, contains_between, contains_between, contains_between]
    constructor
    · rintro ⟨hav, hvc⟩
      cases hvb : (v.precedence b).isLE with
      | true => exact Or.inl ⟨hav, rfl⟩
      | false => exact Or.inr ⟨OrientedCmp.lt_of_not_isLE (by simp [hvb]), hvc⟩
    · rintro (⟨hav, hvb⟩ | ⟨hbv, hvc⟩)
      · exact ⟨hav, TransCmp.isLE_trans hvb hbc⟩
      · exact ⟨TransCmp.lt_of_isLE_of_lt hab hbv, hvc⟩
  lower_le v hv := (contains_between.1 hv).2
  upper_gt v hv := (contains_between.1 hv).1

theorem Range.after_cutAt {a b : Version} (hab : (a.precedence b).isLE = true) :
    CutAt (after a) (between a b) (after b) b where
  split v := by
    rw [Bool.eq_iff_iff, Bool.or_eq_true, contains_between, contains_after, contains_after]
    constructor
    · intro hav
      cases hvb : (v.precedence b).isLE with
      | true => exact Or.inl ⟨hav, rfl⟩
      | false => exact Or.inr (OrientedCmp.lt_of_not_isLE (by simp [hvb]))
    · rintro (⟨hav, -⟩ | hbv)
      · exact hav
      · exact TransCmp.lt_of_isLE_of_lt hab hbv
  lower_le v hv := (contains_between.1 hv).2
  upper_gt v hv := contains_after.1 hv

/-- The collections of a range that is cut in two are those of the lower part, then those of the upper
    part. -/
theorem Repository.Listed.inRange_append {r : Repository} (h : r.Listed) {whole lower upper : Range}
    {b : Version} (hcut : Range.CutAt whole lower upper b) :
    r.inRange whole = r.inRange lower ++ r.inRange upper := by
  have hapart : ∀ v, lower.contains v = true → upper.contains v = false := by
    intro v hlower
    cases hupper : upper.contains v with
    | false => rfl
    | true => exact absurd (hcut.upper_gt v hupper) (Version.isLE_iff_not_lt.1 (hcut.lower_le v hlower))
  have horder : r.collections.Pairwise fun c d =>
      upper.contains c.version = true → lower.contains d.version = false := by
    refine h.versions.imp fun {c d} hcd hupper => ?_
    cases hlower : lower.contains d.version with
    | false => rfl
    | true =>
      -- then `d` would not be above the cut, and `c` would come after it
      have hdc : d.version.precedence c.version = .lt :=
        TransCmp.lt_of_isLE_of_lt (hcut.lower_le _ hlower) (hcut.upper_gt _ hupper)
      rw [Version.order_gt_of_precedence_lt hdc] at hcd
      cases hcd
  have hsplit := filter_or_eq_append (fun c _ hlower => hapart c.version hlower) horder
  simp only [inRange, hcut.split]
  exact hsplit

/-! ## Runs in steps -/

namespace Project

open Uplift.Action

variable {p : Project} {s : Services} {dry : Bool} {parser : Option String}

theorem runCodemods_append (codemods more : List Codemod) :
    p.runCodemods s dry parser (codemods ++ more) = do
      let first ← p.runCodemods s dry parser codemods
      let second ← p.runCodemods s dry parser more
      return first ++ second := by
  induction codemods with
  | nil => simp [runCodemods]
  | cons c rest ih => simp [runCodemods, ih]

/-- A run of two lists of codemods that succeeds is a run of one, then of the other. -/
theorem on_runCodemods_append {codemods more : List Codemod} {reports : List CodemodReport}
    {w w₂ : World} : (p.runCodemods s dry parser (codemods ++ more)).on w = (.ok reports, w₂) ↔
      ∃ first second w₁, (p.runCodemods s dry parser codemods).on w = (.ok first, w₁) ∧
        (p.runCodemods s dry parser more).on w₁ = (.ok second, w₂) ∧ reports = first ++ second := by
  rw [runCodemods_append, on_bind]
  rcases (p.runCodemods s dry parser codemods).on w with ⟨e | first, w₁⟩
  · simp
  · simp only [on_bind]
    rcases hmore : (p.runCodemods s dry parser more).on w₁ with ⟨e | second, w₂'⟩
    · simp [hmore]
    · simp only [on_pure, Prod.mk.injEq, Except.ok.injEq]
      constructor
      · rintro ⟨rfl, rfl⟩
        exact ⟨first, second, w₁, ⟨rfl, rfl⟩, hmore, rfl⟩
      · rintro ⟨first', second', w₁', ⟨rfl, rfl⟩, hmore', rfl⟩
        rw [hmore] at hmore'
        simpa using hmore'

end Project

namespace CodemodRun

open Uplift.Action

variable {x : CodemodRun}

theorem on_runRange_eq_ok {range : Range} {reports : List CodemodReport} {w w' : World}
    (hsel : x.selector = none) :
    (x.runRange range).on w = (.ok reports, w') ↔
      (x.project.runCodemods x.services x.dry x.parser
        (Collection.flattenAscending (x.repository.inRange range))).on w = (.ok reports, w') := by
  have hselect : (x.select (x.matched range)).on w = (.ok (x.repository.inRange range), w) := by
    simp [select, hsel, matched]
  rw [runRange, on_bind_ok hselect, runAll, on_mapError]
  rcases (x.project.runCodemods x.services x.dry x.parser
    (Collection.flattenAscending (x.repository.inRange range))).on w with ⟨e | done, w₁⟩
  · simp [mapError_error]
  · simp [mapError_ok]

/-- Taking the range at once is taking it in two steps: the same collections are found, and a run
    succeeds if both steps do, with the reports of one after those of the other and with the world that
    they leave. -/
structure InSteps (x : CodemodRun) (whole lower upper : Range) : Prop where
  collections : x.repository.inRange whole = x.repository.inRange lower ++ x.repository.inRange upper
  run : ∀ w reports w₂, (x.runRange whole).on w = (.ok reports, w₂) ↔
    ∃ first second w₁, (x.runRange lower).on w = (.ok first, w₁) ∧
      (x.runRange upper).on w₁ = (.ok second, w₂) ∧ reports = first ++ second

theorem inSteps_of_cutAt (hlisted : x.repository.Listed) (hsel : x.selector = none)
    {whole lower upper : Range} {b : Version} (hcut : Range.CutAt whole lower upper b) :
    x.InSteps whole lower upper := by
  have happend := hlisted.inRange_append hcut
  refine ⟨happend, fun w reports w₂ => ?_⟩
  have hflatten : Collection.flatten (x.repository.inRange whole)
      = Collection.flatten (x.repository.inRange lower)
        ++ Collection.flatten (x.repository.inRange upper) := by
    rw [happend, Collection.flatten, List.flatMap_append]
    rfl
  simp only [on_runRange_eq_ok hsel, hlisted.flattenAscending_eq_flatten]
  rw [hflatten]
  exact Project.on_runCodemods_append

/-- **A migration in steps is the migration at once.** Let `a`, `b` and `c` be versions of ascending
    precedence, and run codemods of a repository that was loaded from a disk without a selector. From
    `a` to `c`, the same collections are found as from `a` to `b` and then from `b` to `c`. Running them
    at once succeeds if the two steps succeed one after the other, with the same reports in order and
    the same world in the end: files, loaded transforms and log. The same holds above `a` without
    end. -/
theorem runRange_stepwise {t : Tree} {root : Path} {a b c : Version} (ht : t.wellFormed = true)
    (hload : Repository.load t root = .ok x.repository) (hsel : x.selector = none)
    (hab : (a.precedence b).isLE = true) (hbc : (b.precedence c).isLE = true) :
    x.InSteps (.between a c) (.between a b) (.between b c) ∧
    x.InSteps (.after a) (.between a b) (.after b) := by
  have hlisted := Repository.listed_of_load ht hload
  exact ⟨inSteps_of_cutAt hlisted hsel (Range.between_cutAt hab hbc),
    inSteps_of_cutAt hlisted hsel (Range.after_cutAt hab)⟩

/-- A disk with codemods, some of them for a version with build metadata. -/
def ladder : Tree :=
  .dir [("codemods", .dir [
    ("3.0.0", .dir [("a.code.ts", .file (.text ""))]),
    ("2.0.0+b", .dir [("a.code.ts", .file (.text ""))]),
    ("2.0.0", .dir [("b.code.ts", .file (.text "")), ("a.code.ts", .file (.text ""))])])]

/-- The codemods on the disk are run on one file by an engine that counts its calls. -/
def ladderRun : CodemodRun where
  project := {
    cwd := ⟨"/app"⟩, framework := ⟨"core"⟩, manifestPath := ⟨"/app/package.json"⟩
    manifest := .obj [], kind := .plugin, files := [⟨"/app/index.ts"⟩] }
  repository := match Repository.load ladder ⟨"/codemods"⟩ with
    | .ok r => r
    | .error _ => { root := ⟨"/codemods"⟩ }
  services := { engine := fun log _ t => (.report { ok := log.length + 1 }, t) }

/-- From 1.0.0 by way of 2.0.0 to 3.0.0: the codemods with build metadata are part of the first step. -/
theorem runRange_stepwise_ladder :
    let x := ladderRun
    let w : World := { tree := ladder }
    ladder.wellFormed = true ∧ Repository.load ladder ⟨"/codemods"⟩ = .ok x.repository ∧
    x.selector = none ∧ ∃ first second w₁ w₂,
      (x.runRange (.between (.release 1 0 0) (.release 2 0 0))).on w = (.ok first, w₁) ∧
      (x.runRange (.between (.release 2 0 0) (.release 3 0 0))).on w₁ = (.ok second, w₂) ∧
      (x.runRange (.between (.release 1 0 0) (.release 3 0 0))).on w = (.ok (first ++ second), w₂) ∧
      (first ++ second).map (fun r => (r.codemod.path.text, r.report.ok)) = [
        ("/codemods/2.0.0/a.code.ts", 1), ("/codemods/2.0.0/b.code.ts", 2),
        ("/codemods/2.0.0+b/a.code.ts", 3), ("/codemods/3.0.0/a.code.ts", 4)] := by
  intro x w
  have hwf : ladder.wellFormed = true := by decide
  have hload : Repository.load ladder ⟨"/codemods"⟩ = .ok x.repository := rfl
  have hsteps := runRange_stepwise (a := .release 1 0 0) (b := .release 2 0 0) (c := .release 3 0 0)
    hwf hload rfl (by decide) (by decide)
  have hcounts : ((x.runRange (.between (.release 1 0 0) (.release 3 0 0))).on w).1.toOption.map
      (·.map fun r => (r.codemod.path.text, r.report.ok)) = some [
        ("/codemods/2.0.0/a.code.ts", 1), ("/codemods/2.0.0/b.code.ts", 2),
        ("/codemods/2.0.0+b/a.code.ts", 3), ("/codemods/3.0.0/a.code.ts", 4)] := by
    decide +kernel
  rcases hrun : (x.runRange (.between (.release 1 0 0) (.release 3 0 0))).on w with
    ⟨e | reports, w₂⟩ <;> rw [hrun] at hcounts
  · cases hcounts
  · obtain ⟨first, second, w₁, hfirst, hsecond, rfl⟩ := (hsteps.1.run w reports w₂).1 hrun
    exact ⟨hwf, hload, rfl, first, second, w₁, w₂, hfirst, hsecond, rfl, Option.some.inj hcounts⟩

end CodemodRun

end Uplift
