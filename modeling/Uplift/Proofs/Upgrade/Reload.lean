import Uplift.Proofs.Manifest
import Uplift.Proofs.Manifest.RoundTrip
import Uplift.Proofs.Project
import Uplift.Proofs.Upgrade.Course
import Uplift.Proofs.Version.Text

set_option autoImplicit false

/-! # Loading a project after its upgrade

The version of an application is the one that its manifest pins. After an upgrade the manifest pins the
new version, it can be read again, and it makes no plugin of the project; so the project that is loaded
from the files is an application at the new version, and to upgrade it there once more is refused at once
(`run_sticks`). -/

namespace Uplift

namespace Manifest

variable {f : Framework} {old new : Version} {m : Json}

/-! ## The manifest after pinning -/

theorem pinned_bump (howns : f.owns f.package = true)
    (hdeclared : (m.member? "dependencies").bind (·.member? f.package) = some (.str old.text)) :
    pinned (bump m f old new) f = some new := by
  obtain ⟨deps, hdeps, hentry⟩ := Option.bind_eq_some_iff.1 hdeclared
  have hpin : repin f old new (f.package, .str old.text) = (f.package, .str new.text) := by
    simp [repin, isPin, howns, Json.str?]
  simp [pinned, member?_bump, hdeps, member?_bumpMember, hentry, hpin, Json.str?]

/-- The framework's own package is among the pins. -/
theorem mem_pins (howns : f.owns f.package = true)
    (hdeclared : (m.member? "dependencies").bind (·.member? f.package) = some (.str old.text)) :
    f.package ∈ pins m f old := by
  obtain ⟨deps, hdeps, hentry⟩ := Option.bind_eq_some_iff.1 hdeclared
  obtain ⟨fields, hfields, hget⟩ := Option.bind_eq_some_iff.1 hentry
  have hdependencies : dependencies m = fields := by
    simp [dependencies, hdeps, hfields]
  refine List.mem_map.2 ⟨(f.package, .str old.text), List.mem_filter.2 ⟨?_, ?_⟩, rfl⟩
  · rw [hdependencies]
    exact Fields.mem_of_get? hget
  · simp [isPin, howns, Json.str?]

/-- Texts of versions do not make a plugin of a project. -/
theorem text_ne_plugin (v : Version) : v.text ≠ "plugin" := by
  intro h
  have hread := v.read?_text
  rw [h] at hread
  cases hread

/-- Pinning makes no plugin of a project, even if the framework's key is `dependencies`. -/
theorem saysPlugin_bump (h : Project.saysPlugin m f = false) :
    Project.saysPlugin (bump m f old new) f = false := by
  unfold Project.saysPlugin at h ⊢
  rw [decide_eq_false_iff_not] at h ⊢
  rw [member?_bump]
  cases hmember : m.member? f.key with
  | none => simp
  | some v =>
    rw [hmember, Option.bind_some] at h
    rw [Option.map_some, Option.bind_some]
    by_cases hkey : f.key = "dependencies"
    · rw [hkey, member?_bumpMember]
      cases hkind : v.member? "kind" with
      | none => simp
      | some d =>
        rw [hkind] at h
        simp only [Option.map_some, Option.bind_some, repin]
        -- an entry that was pinned anew holds a version now, any other one what it held before
        split
        · exact fun heq => text_ne_plugin new (Option.some.inj heq)
        · exact h
    · rw [bumpMember_of_ne f old new hkey]
      exact h

theorem legible_repin {depth : Nat} {e : String × Json} (h : Json.Legible depth e.2) :
    Json.Legible depth (repin f old new e).2 := by
  unfold repin
  split
  · exact .str
  · exact h

theorem legible_bumpMember {depth : Nat} {e : String × Json} (h : Json.Legible depth e.2) :
    Json.Legible depth (bumpMember f old new e).2 := by
  obtain ⟨k, v⟩ := e
  by_cases hk : k = "dependencies"
  · subst hk
    cases v with
    | obj deps =>
      cases h with
      | number hnumber _ => cases hnumber
      | obj hkeys hdeps =>
        refine .obj ?_ fun e he => ?_
        · rw [Fields.keys_map (repin_fst f old new)]
          exact hkeys
        · obtain ⟨entry, hentry, rfl⟩ := List.mem_map.1 he
          exact legible_repin (hdeps entry hentry)
    | null | bool _ | int _ | float _ | str _ | arr _ => exact h
  · rw [bumpMember_of_ne f old new hk]
    exact h

theorem legible_bump {depth : Nat} (h : Json.Legible depth m) :
    Json.Legible depth (bump m f old new) := by
  cases m with
  | obj fields =>
    cases h with
    | number hnumber _ => cases hnumber
    | obj hkeys hfields =>
      rw [bump_obj]
      refine .obj ?_ fun e he => ?_
      · rw [Fields.keys_map (bumpMember_fst f old new)]
        exact hkeys
      · obtain ⟨entry, hentry, rfl⟩ := List.mem_map.1 he
        exact legible_bumpMember (hfields entry hentry)
  | null | bool _ | int _ | float _ | str _ | arr _ => exact h

theorem isObject_bump : (bump m f old new).isObject = m.isObject := by
  cases m <;> rfl

end Manifest

/-! ## The project after the upgrade -/

namespace Project

theorem files_ok {t : Tree} {cwd : Path} {policy : Policy} {files : List Path}
    (h : Scan.files t cwd policy = .ok files) (t' : Tree) :
    ∃ files', Scan.files t' cwd policy = .ok files' := by
  unfold Scan.files at h ⊢
  cases hglobs : Scan.globs cwd policy.exclude with
  | error e => rw [hglobs] at h; cases h
  | ok globs => exact ⟨_, rfl⟩

theorem policy_of_version? {p : Project} {v : Version} (h : p.version? = some v) :
    p.kind.policy = .application := by
  unfold version? at h
  cases hkind : p.kind with
  | application _ => rfl
  | plugin => simp [hkind, ProjectKind.version?] at h

/-- A directory whose manifest pins a version and makes no plugin of it is loaded as an application. -/
theorem load_application {t : Tree} {cwd : Path} {f : Framework} {m : Json} {v : Version}
    {files : List Path} (hread : Manifest.read t (cwd.child manifestFile) = .ok m)
    (hplugin : saysPlugin m f = false) (hpinned : Manifest.pinned m f = some v)
    (hfiles : Scan.files t cwd .application = .ok files) :
    load t cwd f = .ok {
      cwd, framework := f, manifestPath := cwd.child manifestFile, manifest := m,
      kind := .application v, files } := by
  have hclassify : classify t cwd m f = .ok (.application v) := by
    simp only [classify, hplugin, frameworkVersion, hpinned]
    rfl
  simp only [load, hread, bind, Except.bind, hclassify, ProjectKind.policy, hfiles]
  rfl

end Project

namespace Upgrade

theorem run_of_upToDate {u : Upgrade} {p : Project} {v : Version} (htarget : u.target = .exact v)
    (hversion : p.version? = some v) (w : World) :
    u.run p w = (.error (.alreadyUpToDate p.framework.package v), p, w) := by
  have hprepare : (u.prepare p).on w = (.error (.alreadyUpToDate p.framework.package v), w) := by
    simp only [prepare, htarget, hversion, if_true]
    rfl
  rw [run, hprepare]

variable {u : Upgrade} {p : Project} {w : World}

/-- Where there is something to pin, the pinned manifest is found on the disk afterwards, and nothing
    else has changed. -/
theorem Pinned.read {old new : Version} {w' : World} {bumped : List String}
    (h : Pinned p new w bumped w') (hold : p.version? = some old)
    (hpins : Manifest.pins p.manifest p.framework old ≠ [])
    (hlegible : Json.Legible Json.maxDepth p.manifest) (hobject : p.manifest.isObject = true) :
    Manifest.read w'.tree p.manifestPath = .ok (Upgrade.repinned p old new) ∧
      ∀ place, w.tree.place? p.manifestPath ≠ some place →
        w'.tree.entryAt place = w.tree.entryAt place := by
  cases h with
  | nothing hnone => exact absurd (hnone old hold) hpins
  | @rewritten old' tree hold' _ hwrite =>
    obtain rfl : old' = old := Option.some.inj (hold'.symm.trans hold)
    refine ⟨Manifest.read_of_write (Manifest.legible_bump hlegible) ?_ hwrite, fun place hplace => ?_⟩
    · rw [Upgrade.repinned, Manifest.isObject_bump]
      exact hobject
    · exact Tree.entryAt_write_of_ne hwrite hplace

/-- **An upgrade sticks and is not repeated.** Let an upgrade of an application succeed, not in a dry
    run. Let the manifest, as it was read again after the codemods, still pin the framework's package to
    the old version, not say that the project is a plugin, and hold only numbers that are read back; let
    the framework own its package, and let installing leave the files alone. Then the project that is
    loaded from the files is an application at the new version; the files are, apart from the manifest,
    as the codemods left them; and an upgrade of the loaded project to the new version is refused
    without a word to anyone and without a change. -/
theorem run_sticks {up : Upgraded} {old : Version} (hrun : (u.run p w).1 = .ok up)
    (hwet : u.dry = false) (hloaded : p.Loaded) (hversion : p.version? = some old)
    (hdeclared : ((u.run p w).2.1.manifest.member? "dependencies").bind
      (·.member? p.framework.package) = some (.str old.text))
    (hplugin : Project.saysPlugin (u.run p w).2.1.manifest p.framework = false)
    (hname : '/' ∈ p.framework.package.toList ∨ p.framework.package.toList.head? ≠ some '@')
    (hinstall : ∀ log cwd t, (u.parties.install log cwd t).2 = t)
    (hnumbers : ∀ n ∈ (u.run p w).2.1.manifest.numbers, Json.read? n.compact = some n) :
    (∃ p', Project.load (u.run p w).2.2.tree p.cwd p.framework = .ok p' ∧
      p'.kind = .application up.new ∧
      ∀ (u' : Upgrade) (w' : World), u'.target = .exact up.new →
        u'.run p' w' = (.error (.alreadyUpToDate p.framework.package up.new), p', w')) ∧
    ∃ w₁, u.Ran p w up.new up.reports w₁ ∧ p.refresh w₁.tree = (.ok (), (u.run p w).2.1) ∧
      ∀ place, w₁.tree.place? p.manifestPath ≠ some place →
        (u.run p w).2.2.tree.entryAt place = w₁.tree.entryAt place := by
  have hcourse := u.run_course p w
  rw [hrun] at hcourse
  generalize (u.run p w).2.1 = refreshed at *
  generalize (u.run p w).2.2 = w' at *
  cases hcourse with
  | rehearsed _ _ hdry => rw [hwet] at hdry; cases hdry
  | @completed new reports _ w₁ w₂ bumped hran hfresh _ hpin =>
    obtain ⟨hcwd, hframework, hmanifest, hkind⟩ := Project.refresh_frame hfresh
    obtain ⟨hread, hfiles⟩ := Project.refresh_eq_ok hfresh
    obtain ⟨hobject, text, -, htext⟩ := Manifest.read_eq_ok hread
    -- there is something to pin, so the manifest was written
    have howns := p.framework.owns_package_iff.2 hname
    have hpins : Manifest.pins refreshed.manifest refreshed.framework old ≠ [] := by
      rw [hframework]
      exact List.ne_nil_of_mem (Manifest.mem_pins howns hdeclared)
    have hold : refreshed.version? = some old := (Project.version?_refresh hfresh).trans hversion
    obtain ⟨hnew, hframe⟩ := (pinned_of_on hpin).read hold hpins
      (Json.legible_of_read? htext hnumbers) hobject
    have htree : (u.installed refreshed.cwd w₂).tree = w₂.tree := hinstall _ _ _
    rw [hmanifest] at hnew hframe
    refine ⟨?_, w₁, hran, hfresh, fun place hplace => ?_⟩
    · rw [Project.policy_of_version? hversion] at hfiles
      obtain ⟨files, hfiles⟩ := Project.files_ok hfiles w₂.tree
      rw [hloaded.manifestPath_eq, repinned, hframework] at hnew
      rw [htree]
      exact ⟨_, Project.load_application hnew (Manifest.saysPlugin_bump hplugin)
        (Manifest.pinned_bump howns hdeclared) hfiles, rfl,
        fun u' w' htarget => run_of_upToDate htarget rfl w'⟩
    · rw [htree]
      exact hframe place hplace

/-! ## An upgrade that sticks -/

/-- A shop that pins its framework and another package to versions with the same text, and a patch for
    the next version of the framework. -/
def shopWorld : World where
  tree := .dir [
    ("app", .dir [("package.json", .file (.text
      "\x7b\"dependencies\":\x7b\"@acme/core\":\"4.0.0\",\"pad\":\"4.0.0\"\x7d,\"level\":1\x7d"))]),
    ("codemods", .dir [("4.1.0", .dir [("tag.document.json", .file (.text
      "[\x7b\"op\":\"add\",\"path\":\"/tag\",\"value\":[]\x7d]"))])])]

/-- The patch for the next version. -/
def shopPatch : Codemod := ⟨.document, .release 4 1 0, ⟨"/codemods/4.1.0"⟩, "tag.document.json"⟩

/-- The upgrade to the next version. -/
def shopUpgrade : Upgrade where
  repository := { root := ⟨"/codemods"⟩, collections := [⟨.release 4 1 0, [shopPatch]⟩] }
  services := { engine := .none }
  parties := {
    registry := fun _ _ => .ok [.release 4 0 0, .release 4 1 0]
    confirm := fun _ _ => .ok false
    git := { installed := .ok false, repository := .ok false, changed := .ok none }
    manager := "npm"
    install := fun _ _ t => (.ok (), t) }
  target := .release .minor
  gitChecks := false

/-- What the upgrade does. -/
def shopUpgraded : Upgraded where
  old := some (.release 4 0 0)
  new := .release 4 1 0
  reports := [⟨shopPatch, { ok := 1 }⟩]
  bumped := ["@acme/core"]

theorem eq_str_of_str? {v : Json} {s : String} (h : v.str? = some s) : v = .str s := by
  cases v with
  | str s' => rw [Option.some.inj h]
  | null | bool _ | int _ | float _ | arr _ | obj _ => cases h

theorem eq_int_of_same {v : Json} {i : Int} (h : v.same (.int i) = true) : v = .int i := by
  cases v with
  | int j => rw [eq_of_beq h]
  | null | bool _ | float _ | str _ | arr _ | obj _ => cases h

/-- The shop is loaded, the patch is applied, the framework alone is pinned anew, and the shop is loaded
    again at the new version. -/
theorem run_sticks_shop :
    ∃ p, Project.load shopWorld.tree ⟨"/app"⟩ ⟨"@acme/core"⟩ = .ok p ∧
      (shopUpgrade.run p shopWorld).1 = .ok shopUpgraded ∧
      ∃ p', Project.load (shopUpgrade.run p shopWorld).2.2.tree p.cwd p.framework = .ok p' ∧
        p'.kind = .application (.release 4 1 0) ∧
        ∀ (u' : Upgrade) (w' : World), u'.target = .exact (.release 4 1 0) →
          u'.run p' w' = (.error (.alreadyUpToDate p.framework.package (.release 4 1 0)), p', w') := by
  -- one evaluation gives all that is needed of the upgrade
  have hfacts : (Project.load shopWorld.tree ⟨"/app"⟩ ⟨"@acme/core"⟩).toOption.any (fun p =>
      let r := shopUpgrade.run p shopWorld
      decide (p.version? = some (.release 4 0 0) ∧ '/' ∈ p.framework.package.toList ∧
        r.1.toOption = some shopUpgraded ∧
        ((r.2.1.manifest.member? "dependencies").bind (·.member? p.framework.package)).bind Json.str?
          = some (Version.release 4 0 0).text ∧
        Project.saysPlugin r.2.1.manifest p.framework = false ∧
        ∀ n ∈ r.2.1.manifest.numbers, n.same (.int 1) = true)) = true := by
    decide +kernel
  obtain ⟨p, hp, hfacts⟩ := (Option.any_eq_true _ _).1 hfacts
  obtain ⟨hversion, hslash, hrun, hpin, hplugin, hones⟩ := of_decide_eq_true hfacts
  have hload := eq_ok_of_toOption hp
  have hrun := eq_ok_of_toOption hrun
  obtain ⟨v, hv, hstr⟩ := Option.bind_eq_some_iff.1 hpin
  rw [eq_str_of_str? hstr] at hv
  have hnumbers : ∀ n ∈ (shopUpgrade.run p shopWorld).2.1.manifest.numbers,
      Json.read? n.compact = some n := by
    intro n hn
    rw [eq_int_of_same (hones n hn)]
    rfl
  obtain ⟨⟨p', hload', hkind, hagain⟩, -⟩ := run_sticks hrun rfl (.load hload) hversion hv hplugin
    (.inl hslash) (fun _ _ _ => rfl) hnumbers
  exact ⟨p, hload, hrun, p', hload', hkind, hagain⟩

end Upgrade

end Uplift
