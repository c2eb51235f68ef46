import Uplift.Proofs.Project.Scan

set_option autoImplicit false

/-! # A project while its files change

Files are edited and the project is refreshed, in any order. A refresh that finds no manifest keeps the
project as it is; one that finds a manifest takes over everything from the disk except for what the
project is (`refresh_cases`). That there is nothing in between rests on the scan: its patterns are
fixed and can be read, so that it does not fail after the manifest was taken over. -/

namespace Uplift.Project

variable {p p' : Project}

/-- Two states of one project. -/
structure SameIdentity (p p' : Project) : Prop where
  cwd : p'.cwd = p.cwd
  framework : p'.framework = p.framework
  manifestPath : p'.manifestPath = p.manifestPath
  kind : p'.kind = p.kind

theorem SameIdentity.refl (p : Project) : p.SameIdentity p := ⟨rfl, rfl, rfl, rfl⟩

theorem SameIdentity.trans {p'' : Project} (h : p.SameIdentity p') (h' : p'.SameIdentity p'') :
    p.SameIdentity p'' where
  cwd := h'.cwd.trans h.cwd
  framework := h'.framework.trans h.framework
  manifestPath := h'.manifestPath.trans h.manifestPath
  kind := h'.kind.trans h.kind

theorem exists_files_of_kind (t : Tree) (cwd : Path) (kind : ProjectKind) :
    ∃ files, Scan.files t cwd kind.policy = .ok files := by
  obtain ⟨roots, hroots, -⟩ := Scan.rooted_policy kind
  obtain ⟨gs, -, hfiles⟩ := Scan.exists_files t cwd roots
  exact ⟨_, hroots ▸ hfiles⟩

/-- **What a refresh can do**: everything, or nothing because of the manifest. -/
theorem refresh_cases (p : Project) (t : Tree) :
    (∃ manifest files, Manifest.read t p.manifestPath = .ok manifest ∧
      Scan.files t p.cwd p.kind.policy = .ok files ∧
      p.refresh t = (.ok (), { p with manifest, files })) ∨
    (∃ e, Manifest.read t p.manifestPath = .error e ∧ p.refresh t = (.error e, p)) := by
  cases hread : Manifest.read t p.manifestPath with
  | error e => exact Or.inr ⟨e, rfl, by simp only [refresh, hread]⟩
  | ok manifest =>
    obtain ⟨files, hfiles⟩ := exists_files_of_kind t p.cwd p.kind
    exact Or.inl ⟨manifest, files, rfl, hfiles, by simp only [refresh, rescan, hread, hfiles]⟩

theorem SameIdentity.of_refresh (p : Project) (t : Tree) : p.SameIdentity (p.refresh t).2 := by
  have hrefresh : p.refresh t = ((p.refresh t).1, (p.refresh t).2) := rfl
  obtain ⟨hcwd, hframework, hpath, hkind⟩ := refresh_frame hrefresh
  exact ⟨hcwd, hframework, hpath, hkind⟩

/-! ## Sessions -/

/-- Files and a project of them. -/
structure Session where
  tree : Tree
  project : Project

namespace Session

/-- What happens in a session. -/
inductive Step where
  | edit (change : Tree → Tree)
  | refresh

/-- The session after a step. -/
def step (s : Session) : Step → Session
  | .edit change => { s with tree := change s.tree }
  | .refresh => { s with project := (s.project.refresh s.tree).2 }

/-- The session after some steps. -/
def run (s : Session) (steps : List Step) : Session := steps.foldl step s

theorem step_sameIdentity (s : Session) (next : Step) :
    s.project.SameIdentity (s.step next).project := by
  cases next with
  | edit change => exact .refl _
  | refresh => exact .of_refresh s.project s.tree

theorem run_sameIdentity (s : Session) (steps : List Step) :
    s.project.SameIdentity (s.run steps).project := by
  induction steps generalizing s with
  | nil => exact .refl _
  | cons next steps ih => exact (step_sameIdentity s next).trans (ih (s.step next))

/-- **A refresh takes over all or nothing and never changes what the project is.** Whatever was edited
    and refreshed before: a refresh that fails leaves the project as it was; it succeeds if the
    manifest on the disk is an object, and then takes over that object and the files on the disk that
    count for the kind of project; so it comes to the same as loading anew, if the kind still is what
    it was. -/
theorem refresh_all_or_nothing (hp : p.Loaded) (t : Tree) (steps : List Step) :
    let now := run ⟨t, p⟩ steps
    p.SameIdentity now.project ∧
    (∀ e p', now.project.refresh now.tree = (.error e, p') → p' = now.project) ∧
    (∀ p', now.project.refresh now.tree = (.ok (), p') → p.SameIdentity p' ∧
      Manifest.read now.tree p.manifestPath = .ok p'.manifest ∧
      Scan.files now.tree p.cwd p.kind.policy = .ok p'.files) ∧
    (∀ m, Manifest.read now.tree p.manifestPath = .ok m →
      (now.project.refresh now.tree).1 = .ok ()) ∧
    (∀ fresh, Project.load now.tree p.cwd p.framework = .ok fresh → fresh.kind = p.kind →
      now.project.refresh now.tree = (.ok (), fresh)) := by
  intro now
  have hnow : p.SameIdentity now.project := run_sameIdentity ⟨t, p⟩ steps
  rcases refresh_cases now.project now.tree with
    ⟨manifest, files, hread, hfiles, hrefresh⟩ | ⟨e, hread, hrefresh⟩
  · rw [hnow.manifestPath] at hread
    rw [hnow.cwd, hnow.kind] at hfiles
    rw [hrefresh]
    refine ⟨hnow, ?_, ?_, fun _ _ => rfl, ?_⟩
    · intro e p' h
      cases (Prod.mk.inj h).1
    · intro p' h
      obtain rfl := (Prod.mk.inj h).2
      exact ⟨⟨hnow.cwd, hnow.framework, hnow.manifestPath, hnow.kind⟩, hread, hfiles⟩
    · intro fresh hload hkind
      obtain ⟨manifest', kind, files', hread', -, hfiles', rfl⟩ := load_eq_ok hload
      rw [← hp.manifestPath_eq, hread] at hread'
      obtain rfl : kind = p.kind := hkind
      rw [hfiles] at hfiles'
      rw [← Except.ok.inj hread', ← Except.ok.inj hfiles', ← hp.manifestPath_eq, ← hnow.cwd,
        ← hnow.framework, ← hnow.manifestPath, ← hnow.kind]
  · rw [hnow.manifestPath] at hread
    rw [hrefresh]
    refine ⟨hnow, ?_, ?_, ?_, ?_⟩
    · intro e' p' h
      exact (Prod.mk.inj h).2.symm
    · intro p' h
      cases (Prod.mk.inj h).1
    · intro m h
      rw [hread] at h
      cases h
    · intro fresh hload _
      obtain ⟨manifest, kind, files, hread', -⟩ := load_eq_ok hload
      rw [← hp.manifestPath_eq, hread] at hread'
      cases hread'

/-- A directory with a manifest and sources. -/
def desk (manifest : String) (sources : List (String × Tree)) : Tree :=
  .dir [("app", .dir [("package.json", .file (.text manifest)), ("src", .dir sources)])]

/-- An application that turns into a plugin, loses its manifest, and becomes an application again while
    it gets a source. -/
def turns : List Step := [
  .edit fun _ => desk "\x7b\"acme\":\x7b\"kind\":\"plugin\"\x7d\x7d" [],
  .refresh,
  .edit fun _ => desk "[]" [],
  .refresh,
  .edit fun _ => desk "\x7b\"dependencies\":\x7b\"@acme/core\":\"4.0.0\"\x7d\x7d"
    [("a.ts", .file (.text ""))]]

/-- It stays an application while its manifest says otherwise, keeps that manifest when there is none,
    and in the end is what loading it anew gives. -/
theorem refresh_all_or_nothing_turns :
    let start := desk "\x7b\"dependencies\":\x7b\"@acme/core\":\"4.0.0\"\x7d\x7d" []
    ∃ p, Project.load start ⟨"/app"⟩ ⟨"@acme/core"⟩ = .ok p ∧
      (let lost := run ⟨start, p⟩ (turns.take 3)
       saysPlugin lost.project.manifest p.framework = true ∧
        lost.project.kind = .application (.release 4 0 0) ∧
        ∃ e, lost.project.refresh lost.tree = (.error e, lost.project)) ∧
      (let now := run ⟨start, p⟩ turns
       ∃ fresh, Project.load now.tree p.cwd p.framework = .ok fresh ∧
        fresh.files = [⟨"/app/package.json"⟩, ⟨"/app/src/a.ts"⟩] ∧
        now.project.refresh now.tree = (.ok (), fresh)) := by
  intro start
  have hfacts : (Project.load start ⟨"/app"⟩ ⟨"@acme/core"⟩).toOption.any (fun p =>
      let lost := run ⟨start, p⟩ (turns.take 3)
      let now := run ⟨start, p⟩ turns
      decide (p.kind = .application (.release 4 0 0) ∧
        saysPlugin lost.project.manifest p.framework = true ∧
        (lost.project.refresh lost.tree).1.toOption = none ∧
        (Project.load now.tree p.cwd p.framework).toOption.any (fun fresh =>
          decide (fresh.kind = p.kind ∧
            fresh.files = [⟨"/app/package.json"⟩, ⟨"/app/src/a.ts"⟩])) = true)) = true := by
    decide +kernel
  obtain ⟨p, hp, hfacts⟩ := (Option.any_eq_true _ _).1 hfacts
  obtain ⟨hkind, hplugin, hlost, hnow⟩ := of_decide_eq_true hfacts
  obtain ⟨fresh, hfresh, hnow⟩ := (Option.any_eq_true _ _).1 hnow
  obtain ⟨hsame, hfiles⟩ := of_decide_eq_true hnow
  have hp := eq_ok_of_toOption hp
  have hfresh := eq_ok_of_toOption hfresh
  obtain ⟨hidentity, herror, -⟩ := refresh_all_or_nothing (.load hp) start (turns.take 3)
  obtain ⟨-, -, -, -, hload⟩ := refresh_all_or_nothing (.load hp) start turns
  refine ⟨p, hp, ⟨hplugin, hidentity.kind.trans hkind, ?_⟩, fresh, hfresh, hfiles,
    hload fresh hfresh hsame⟩
  obtain ⟨e, he⟩ := exists_error_of_toOption hlost
  exact ⟨e, Prod.ext he (herror e _ (Prod.ext he rfl))⟩

end Session

end Uplift.Project
