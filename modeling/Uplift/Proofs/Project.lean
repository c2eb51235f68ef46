import Uplift.Project
import Uplift.Proofs.Except

set_option autoImplicit false

/-! # Laws of projects

A refresh reads manifest and files again and keeps everything else of a project (`refresh_frame`). It
can fail only because the manifest cannot be read or a pattern is no pattern (`refresh_error`). So a
project keeps what it got when it was loaded, such as the place of its manifest (`Loaded`). -/

namespace Uplift

/-- The errors of reading a project again. -/
inductive Error.OfRefresh : Error → Prop
  | manifest (path : Path) (fault : ManifestFault) : OfRefresh (.invalidManifest path fault)
  | scan (root : Path) (fault : ScanFault) : OfRefresh (.projectScan root fault)

theorem Manifest.read_error {t : Tree} {path : Path} {e : Error}
    (h : Manifest.read t path = .error e) : e.OfRefresh := by
  unfold Manifest.read at h
  split at h
  · obtain rfl := Except.error.inj h
    exact .manifest path _
  · split at h
    · obtain rfl := Except.error.inj h
      exact .manifest path _
    · split at h
      · cases h
      · obtain rfl := Except.error.inj h
        exact .manifest path _

theorem Scan.globs_error {cwd : Path} {exclude : List String} {e : Error}
    (h : Scan.globs cwd exclude = .error e) : e.OfRefresh := by
  obtain ⟨pattern, -, hpattern⟩ := exists_of_mapM_error h
  split at hpattern
  · cases hpattern
  · obtain rfl := Except.error.inj hpattern
    exact .scan cwd _

theorem Scan.files_error {t : Tree} {cwd : Path} {policy : Policy} {e : Error}
    (h : Scan.files t cwd policy = .error e) : e.OfRefresh := by
  unfold Scan.files at h
  cases hglobs : Scan.globs cwd policy.exclude with
  | error e' =>
    rw [hglobs] at h
    obtain rfl := Except.error.inj h
    exact Scan.globs_error hglobs
  | ok globs =>
    rw [hglobs] at h
    cases h

namespace Project

variable {t : Tree} {p p' : Project}

theorem refresh_error {e : Error} (h : p.refresh t = (.error e, p')) : e.OfRefresh := by
  unfold refresh rescan at h
  split at h
  · split at h
    · cases h
    · rename_i e' hscan
      obtain ⟨he, -⟩ := Prod.mk.inj h
      obtain rfl := Except.error.inj he
      exact Scan.files_error hscan
  · rename_i e' hread
    obtain ⟨he, -⟩ := Prod.mk.inj h
    obtain rfl := Except.error.inj he
    exact Manifest.read_error hread

/-- Only manifest and files are read again. -/
theorem refresh_frame {outcome : Except Error Unit} (h : p.refresh t = (outcome, p')) :
    p'.cwd = p.cwd ∧ p'.framework = p.framework ∧ p'.manifestPath = p.manifestPath ∧
      p'.kind = p.kind := by
  unfold refresh rescan at h
  split at h
  · split at h <;> obtain ⟨-, rfl⟩ := Prod.mk.inj h <;> exact ⟨rfl, rfl, rfl, rfl⟩
  · obtain ⟨-, rfl⟩ := Prod.mk.inj h
    exact ⟨rfl, rfl, rfl, rfl⟩

theorem version?_refresh {outcome : Except Error Unit} (h : p.refresh t = (outcome, p')) :
    p'.version? = p.version? := by
  obtain ⟨-, -, -, hkind⟩ := refresh_frame h
  rw [version?, version?, hkind]

/-- After a refresh, manifest and files are those on the disk. -/
theorem refresh_eq_ok (h : p.refresh t = (.ok (), p')) :
    Manifest.read t p.manifestPath = .ok p'.manifest ∧
      Scan.files t p.cwd p.kind.policy = .ok p'.files := by
  unfold refresh rescan at h
  split at h
  · rename_i manifest hread
    split at h
    · rename_i files hfiles
      obtain ⟨-, rfl⟩ := Prod.mk.inj h
      exact ⟨hread, hfiles⟩
    · cases (Prod.mk.inj h).1
  · cases (Prod.mk.inj h).1

/-! ## Loading -/

theorem load_eq_ok {cwd : Path} {f : Framework} (h : load t cwd f = .ok p) :
    ∃ manifest kind files, Manifest.read t (cwd.child manifestFile) = .ok manifest ∧
      classify t cwd manifest f = .ok kind ∧ Scan.files t cwd kind.policy = .ok files ∧
      p = {
        cwd, framework := f, manifestPath := cwd.child manifestFile, manifest, kind, files } := by
  obtain ⟨manifest, hread, h⟩ := bind_eq_ok_iff.1 h
  obtain ⟨kind, hclassify, h⟩ := bind_eq_ok_iff.1 h
  obtain ⟨files, hfiles, h⟩ := bind_eq_ok_iff.1 h
  exact ⟨manifest, kind, files, hread, hclassify, hfiles, (Except.ok.inj h).symm⟩

/-- The projects that can be at hand: loaded from some files, and refreshed since then, with success or
    without. -/
inductive Loaded : Project → Prop
  | load {t : Tree} {cwd : Path} {f : Framework} {p : Project} (h : load t cwd f = .ok p) : Loaded p
  | refresh {t : Tree} {p p' : Project} {outcome : Except Error Unit} (hp : Loaded p)
      (h : p.refresh t = (outcome, p')) : Loaded p'

theorem Loaded.manifestPath_eq (h : p.Loaded) : p.manifestPath = p.cwd.child manifestFile := by
  induction h with
  | load h =>
    obtain ⟨manifest, kind, files, -, -, -, rfl⟩ := load_eq_ok h
    rfl
  | refresh _ h ih =>
    obtain ⟨hcwd, -, hpath, -⟩ := refresh_frame h
    rw [hcwd, hpath, ih]

end Project

end Uplift
