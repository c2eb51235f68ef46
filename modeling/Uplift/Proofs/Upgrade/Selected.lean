import Uplift.Proofs.Range
import Uplift.Proofs.Repository
import Uplift.Proofs.Upgrade.Course

set_option autoImplicit false

/-! # The codemods of an upgrade

A successful upgrade to `new` has run the codemods between the version from before and `new`, and no
others. Ranges and the target go by precedence; the order in which codemods are run is the total
order of versions, and within a version that of file names. -/

namespace Uplift.Upgrade

open Std

variable {u : Upgrade} {p : Project} {w : World}

/-- What a target resolves to was published, and lies above the version of an application. -/
theorem Resolution.published {target : Target} {available : List Version} {v : Version}
    (h : Resolution target p available (.ok v)) :
    v ∈ available ∧ ∀ old, p.version? = some old → old.precedence v = .lt := by
  cases h with
  | exact htarget hmem hforward =>
    exact ⟨hmem, fun old hold => Version.above_iff.1 (hforward old hold)⟩
  | release htarget hrange hgreatest =>
    obtain ⟨hmem, hfilter⟩ := List.mem_filter.1 (Version.mem_of_greatest? hgreatest)
    have hcontains := (Bool.and_eq_true_iff.1 hfilter).2
    rw [htarget] at hrange
    exact ⟨hmem, fun old hold => Project.lt_of_rangeTo_release hrange hold hcontains⟩

theorem Cleared.published {log gate : List Event} {new : Version} (h : u.Cleared p log new gate) :
    ∃ available, u.parties.registry log p.framework.package = .ok available ∧ new ∈ available ∧
      ∀ old, p.version? = some old → old.precedence new = .lt := by
  obtain @⟨available, inquiries, hfetch, hresolve, hmet⟩ := h
  have hresolution := resolveTarget_resolution u.target p available
  rw [hresolve] at hresolution
  exact ⟨available, hfetch, hresolution.published⟩

/-- Without a selector, the codemods of an upgrade are those of its range, as they are listed. -/
theorem Chosen.eq_filter {new : Version} {codemods : List Codemod} {asking : List Event}
    (h : u.Chosen p new codemods asking) (hsel : u.selector = none) (hlisted : u.repository.Listed) :
    ∃ range, p.rangeTo (.exact (u.codemodsTarget.getD new)) = .ok range ∧
      codemods = u.repository.codemods.filter fun m => range.contains m.version := by
  cases h with
  | @all range _ hrange => exact ⟨range, hrange, hlisted.flattenAscending_inRange range⟩
  | picked hpicked _ _ =>
    rw [hsel] at hpicked
    cases hpicked

theorem Course.ran {up : Upgraded} {p' : Project} {w' : World} (h : u.Course p w (.ok up) p' w') :
    ∃ w₁, u.Ran p w up.new up.reports w₁ := by
  cases h with
  | rehearsed hran _ _ => exact ⟨_, hran⟩
  | completed hran _ _ _ => exact ⟨_, hran⟩

/-- **A successful upgrade has run the right codemods, in order, once.** With a repository that was
    loaded from a disk and without a selector, its reports are about exactly the codemods above the
    version from before and up to the target of codemods; they ascend by version, and by file name
    within a version. The version that it leads to was published, and is above the one from before. -/
theorem run_selects {t : Tree} {root : Path} {up : Upgraded} (ht : t.wellFormed = true)
    (hload : Repository.load t root = .ok u.repository) (hsel : u.selector = none)
    (hrun : (u.run p w).1 = .ok up) :
    (∀ c, c ∈ up.reports.map (·.codemod) ↔ c ∈ u.repository.codemods ∧
      (∀ old, p.version? = some old → old.precedence c.version = .lt) ∧
        (c.version.precedence (u.codemodsTarget.getD up.new)).isLE = true) ∧
    (up.reports.map (·.codemod)).Nodup ∧
    (up.reports.map (·.codemod)).Pairwise (fun a b => (a.version.order b.version).isLE = true ∧
      (a.version = b.version → compare a.filename b.filename = .lt)) ∧
    (∃ available, u.parties.registry w.log p.framework.package = .ok available ∧
      up.new ∈ available) ∧
    (∀ old, p.version? = some old → old.precedence up.new = .lt) := by
  have hcourse := u.run_course p w
  rw [hrun] at hcourse
  obtain ⟨w₁, hclear, hchosen, -, hreports⟩ := hcourse.ran
  have hlisted := Repository.listed_of_load ht hload
  obtain ⟨available, hfetch, hmem, hforward⟩ := hclear.published
  obtain ⟨range, hrange, hfilter⟩ := hchosen.eq_filter hsel hlisted
  have hsorted : (up.reports.map (·.codemod)).Pairwise fun a b => a.order b = .lt := by
    rw [hreports, hfilter]
    exact hlisted.codemods_pairwise.sublist List.filter_sublist
  refine ⟨fun c => ?_, ?_, ?_, ⟨available, hfetch, hmem⟩, hforward⟩
  · rw [hreports, hfilter, List.mem_filter, Project.contains_of_rangeTo_exact hrange]
  · refine hsorted.imp fun {a b} hab heq => ?_
    rw [heq, Codemod.order_self] at hab
    cases hab
  · refine hsorted.imp fun {a b} hab => ?_
    rcases Codemod.order_eq_lt_iff.1 hab with hlt | ⟨heq, hname⟩
    · refine ⟨by rw [hlt]; rfl, fun heq => ?_⟩
      rw [heq, Version.order_self] at hlt
      cases hlt
    · exact ⟨by rw [heq, Version.order_self]; rfl, fun _ => hname⟩

/-- A disk with an application and codemods. Of the versions, one differs from the last version of its
    line in build metadata alone, and one is of the next line. -/
def shelf : Tree :=
  .dir [("app", .dir [("package.json", .file (.text "\x7b\x7d"))]),
    ("codemods", .dir [
      ("6.0.0", .dir [("a.code.ts", .file (.text ""))]),
      ("5.2.0+b", .dir [("b.code.ts", .file (.text "")), ("a.code.ts", .file (.text ""))]),
      ("5.1.0", .dir [("a.code.ts", .file (.text "")), ("notes.md", .file (.text ""))]),
      ("5.0.0", .dir [("a.code.ts", .file (.text ""))])])]

/-- The application on the disk. -/
def climber : Project where
  cwd := ⟨"/app"⟩
  framework := ⟨"core"⟩
  manifestPath := ⟨"/app/package.json"⟩
  manifest := .obj []
  kind := .application (.release 5 0 0)
  files := []

/-- A minor upgrade with the codemods on the disk. -/
def climb : Upgrade where
  repository := match Repository.load shelf ⟨"/codemods"⟩ with
    | .ok r => r
    | .error _ => { root := ⟨"/codemods"⟩ }
  services := { engine := fun _ _ t => (.report { ok := 1 }, t) }
  parties := {
    registry := fun _ _ => .ok [.release 6 0 0, .release 5 2 0, .release 5 1 0]
    confirm := fun _ _ => .ok false
    git := { installed := .ok true, repository := .ok true, changed := .ok (some false) }
    manager := "npm"
    install := fun _ _ t => (.ok (), t) }
  target := .release .minor

/-- From 5.0.0 to 5.2.0: the codemods of the version with build metadata are run as well. -/
theorem run_selects_minor : ∃ up, shelf.wellFormed = true ∧
    Repository.load shelf ⟨"/codemods"⟩ = .ok climb.repository ∧ climb.selector = none ∧
    (climb.run climber { tree := shelf }).1 = .ok up ∧
    up.reports.map (·.codemod.path.text) = ["/codemods/5.1.0/a.code.ts",
      "/codemods/5.2.0+b/a.code.ts", "/codemods/5.2.0+b/b.code.ts"] ∧
    (up.reports.map (·.codemod)).Nodup ∧ (Version.release 5 0 0).precedence up.new = .lt := by
  have hwf : shelf.wellFormed = true := by decide
  have hload : Repository.load shelf ⟨"/codemods"⟩ = .ok climb.repository := rfl
  have hselects := run_selects (u := climb) (p := climber) (w := { tree := shelf }) hwf hload rfl rfl
  exact ⟨_, hwf, hload, rfl, rfl, rfl, hselects.2.1, hselects.2.2.2.2 _ rfl⟩

end Uplift.Upgrade
