import Uplift.Proofs.Manifest
import Uplift.Proofs.Project
import Uplift.Proofs.Upgrade.Effects

set_option autoImplicit false

/-! # Committing an upgrade

The last two stages of an upgrade, moving the pins of the manifest and installing the dependencies,
come after everything that can fail for another reason. An upgrade that fails earlier has changed
nothing but scanned documents, through document codemods, and whatever the engine has written. An
upgrade that fails while installing leaves the new pins behind: nothing is undone. -/

namespace Uplift.Upgrade

variable {u : Upgrade} {p : Project} {w : World}

/-! ## Who writes -/

/-- One of the chosen codemods, a document codemod, writes a scanned `.json` file: the text is what
    its transform makes of the document in that file. The transform is the one that the codemod gets
    when it starts, after the codemods `done`. -/
inductive DocumentWrite (u : Upgrade) (p : Project) (w : World) (t : Tree) (file : FileWrite) : Prop
  | intro {new : Version} {codemods done rest : List Codemod} {c : Codemod} {gate asking : List Event}
      {transform : Transform} (hwet : u.dry = false) (hclear : u.Cleared p w.log new gate)
      (hchosen : u.Chosen p new codemods asking) (hsplit : codemods = done ++ c :: rest)
      (hkind : c.kind = .document) (hpath : file.path ∈ p.filesWith ["json"])
      (hload : ((Runner.transformOf u.services c).on
        ((p.runCodemods u.services u.dry u.parser done).on (w.logged (gate ++ asking))).2).1
          = .ok transform)
      (htext : Runner.newText t transform file.path = some (some file.text))

/-- The manifest is written with its pins moved, right after all codemods have returned and the
    project was read again. -/
inductive PinWrite (u : Upgrade) (p : Project) (w : World) (log : List Event) (file : FileWrite) :
    Prop
  | intro {new old : Version} {reports : List CodemodReport} {refreshed : Project} {w₁ : World}
      (hwet : u.dry = false) (hran : u.Ran p w new reports w₁) (hlog : w₁.log = log)
      (hfresh : p.refresh w₁.tree = (.ok (), refreshed)) (hold : p.version? = some old)
      (hfile : file = ⟨p.manifestPath, (repinned refreshed old new).fileText⟩)

/-- All stages before the installation have succeeded, with this log and these files. -/
inductive Committed (u : Upgrade) (p : Project) (w : World) (log : List Event) (t : Tree) : Prop
  | intro {new : Version} {reports : List CodemodReport} {refreshed : Project} {bumped : List String}
      {w₁ w₂ : World} (hwet : u.dry = false) (hran : u.Ran p w new reports w₁)
      (hfresh : p.refresh w₁.tree = (.ok (), refreshed))
      (hpin : (pinManifest refreshed new).on w₁ = (.ok bumped, w₂))
      (hlog : w₂.log = log) (htree : w₂.tree = t)

/-- While an upgrade prepares, files are changed by the engine and by document codemods alone. -/
theorem PrepareRule.mutation {log : List Event} {t : Tree} {e : Event}
    (h : u.PrepareRule p w log t e) (he : e.mutates = true) :
    (∃ call, e = .engine call) ∨ ∃ file, e = .write file ∧ u.DocumentWrite p w t file := by
  cases h with
  | ask hask => rw [hask] at he; cases he
  | codemod hclear hchosen _ h =>
    cases h with
    | engine _ _ => exact Or.inl ⟨_, rfl⟩
    | write hsplit hkind hwet hpath hload htext =>
      exact Or.inr ⟨_, rfl, .intro hwet hclear hchosen hsplit hkind hpath hload htext⟩

theorem UpgradeRule.write {log : List Event} {t : Tree} {file : FileWrite}
    (h : u.UpgradeRule p w log t (.write file)) :
    u.DocumentWrite p w t file ∨ u.PinWrite p w log file := by
  cases h with
  | prepare h =>
    rcases h.mutation rfl with ⟨call, hcall⟩ | ⟨file', hfile, hwrite⟩
    · cases hcall
    · obtain rfl := Event.write.inj hfile
      exact Or.inl hwrite
  | pin hran hfresh hwet hold =>
    obtain ⟨-, -, hpath, -⟩ := Project.refresh_frame hfresh
    rw [Project.version?_refresh hfresh] at hold
    exact Or.inr (.intro hwet hran rfl hfresh hold (by rw [hpath]))

theorem UpgradeRule.install_inv {log : List Event} {t : Tree} {cwd : Path}
    (h : u.UpgradeRule p w log t (.install cwd)) : cwd = p.cwd ∧ u.Committed p w log t := by
  cases h with
  | prepare h =>
    rcases h.mutation rfl with ⟨call, hcall⟩ | ⟨file, hfile, -⟩
    · cases hcall
    · cases hfile
  | install hran hfresh hwet hpin =>
    exact ⟨(Project.refresh_frame hfresh).1, .intro hwet hran hfresh hpin rfl rfl⟩

/-! ## What is left behind -/

theorem place?_of_changed {o : Outside} {log : List Event} {t : Tree} {file : FileWrite}
    {place : List String} (h : (o.after log t (.write file)).entryAt place ≠ t.entryAt place) :
    t.place? file.path = some place := by
  cases hwrite : t.write file.path (.text file.text) with
  | none => simp [Outside.after, hwrite] at h
  | some t' =>
    simp only [Outside.after, hwrite, Option.getD_some] at h
    by_cases hplace : t.place? file.path = some place
    · exact hplace
    · exact absurd (Tree.entryAt_write_of_ne hwrite hplace) h

/-- The files `t'` are `t` with the pins of the manifest moved to `new`: if there are any, the
    manifest on disk holds them, and every other file is the same. -/
structure Repinned (p refreshed : Project) (new : Version) (t t' : Tree) : Prop where
  pins : ∀ old, p.version? = some old → ∀ name ∈ Manifest.pins refreshed.manifest p.framework old,
    t'.readText p.manifestPath = some (repinned refreshed old new).fileText ∧
      (name, .str new.text) ∈ Manifest.dependencies (repinned refreshed old new)
  kept : ∀ place, t.place? p.manifestPath ≠ some place → t'.entryAt place = t.entryAt place
  alone : (∀ old, p.version? = some old → Manifest.pins refreshed.manifest p.framework old = []) →
    t' = t

theorem Pinned.repinned {refreshed : Project} {new : Version} {bumped : List String}
    {outcome : Except Error Unit} {t : Tree} {w₁ w₂ : World}
    (hfresh : p.refresh t = (outcome, refreshed)) (h : Pinned refreshed new w₁ bumped w₂) :
    Repinned p refreshed new w₁.tree w₂.tree := by
  obtain ⟨-, hframework, hpath, -⟩ := Project.refresh_frame hfresh
  have hversion : refreshed.version? = p.version? := Project.version?_refresh hfresh
  cases h with
  | nothing hpins =>
    refine ⟨fun old hold name hname => ?_, fun _ _ => rfl, fun _ => rfl⟩
    rw [← hframework, hpins old (hversion.trans hold)] at hname
    cases hname
  | @rewritten old tree hold hpins hwrite =>
    rw [hpath] at hwrite
    have hold' : p.version? = some old := hversion.symm.trans hold
    refine ⟨fun old' h' name hname => ?_, fun place hplace => ?_, fun hnone => ?_⟩
    · obtain rfl : old = old' := Option.some.inj (hold'.symm.trans h')
      rw [← hframework] at hname
      exact ⟨Tree.readText_write hwrite, Manifest.mem_dependencies_bump _ _ _ hname⟩
    · exact Tree.entryAt_write_of_ne hwrite hplace
    · rw [hframework] at hpins
      exact absurd (hnone old hold') hpins

/-- Where an upgrade that only prepared has left a change, an engine call or a document codemod has
    changed that entry. -/
theorem PrepareRule.exists_change {events : List Event} {w' : World} {place : List String}
    (h : Leads u.outside (u.PrepareRule p w) w events w')
    (hplace : w'.tree.entryAt place ≠ w.tree.entryAt place) :
    ∃ before e rest, events = before ++ e :: rest ∧
      (u.outside.after (w.log ++ before) (u.outside.replay w.log w.tree before) e).entryAt place
        ≠ (u.outside.replay w.log w.tree before).entryAt place ∧
      ((∃ call, e = .engine call) ∨ ∃ file, e = .write file ∧
        (u.outside.replay w.log w.tree before).place? file.path = some place ∧
        u.DocumentWrite p w (u.outside.replay w.log w.tree before) file) := by
  rw [h.tree] at hplace
  obtain ⟨before, e, rest, rfl, hchange⟩ := u.outside.exists_change hplace
  refine ⟨before, e, rest, rfl, hchange, ?_⟩
  have hmutates : e.mutates = true := by
    cases he : e.mutates with
    | true => rfl
    | false => exact absurd (by rw [u.outside.after_of_not_mutates _ _ he]) hchange
  rcases h.every.at.mutation hmutates with hengine | ⟨file, rfl, hwrite⟩
  · exact Or.inl hengine
  · exact Or.inr ⟨file, rfl, place?_of_changed hchange, hwrite⟩

theorem Course.not_installed {manager : String} {fault : Fault} {p' : Project} {w' : World}
    (h : u.Course p w (.error (.install manager fault)) p' w') :
    ∃ new reports refreshed bumped w₁ w₂, u.dry = false ∧ u.Ran p w new reports w₁ ∧
      p.refresh w₁.tree = (.ok (), refreshed) ∧
      (pinManifest refreshed new).on w₁ = (.ok bumped, w₂) ∧ w' = u.installed p.cwd w₂ := by
  cases h with
  | refused hearly _ => cases hearly
  | uninstalled hran hfresh hwet hpin =>
    refine ⟨_, _, _, _, _, _, hwet, hran, hfresh, hpin, ?_⟩
    rw [(Project.refresh_frame hfresh).1]

/-! ## The order of the last stages -/

/-- At most one installation: it is the last event, so there is none before it. -/
theorem InstallsLast.not_mem {before : List Event} {cwd : Path} {rest : List Event}
    (h : InstallsLast (before ++ .install cwd :: rest)) (cwd' : Path) :
    Event.install cwd' ∉ before := by
  intro hmem
  obtain ⟨front, back, rfl⟩ := List.append_of_mem hmem
  have hnil := h front cwd' (back ++ .install cwd :: rest) (by simp)
  simp at hnil

/-- **Committing comes last, and is not undone.** The events of an upgrade account for all changes of
    its files. It installs at most once, as its last event and after all other stages have succeeded;
    it moves pins only after all codemods have returned and the project was read again. A run that fails
    before these stages has written nothing but scanned documents, through document codemods, next to what
    the engine has written; each entry that is left changed was changed by such a write of that entry or by
    a call of the engine. A failure to install leaves the manifest with its pins moved, and all other files
    as the codemods and the installation left them. -/
theorem run_commits_last (u : Upgrade) (p : Project) (w : World) :
    ∃ events, (u.run p w).2.2.log = w.log ++ events ∧
      (u.run p w).2.2.tree = u.outside.replay w.log w.tree events ∧
      (∀ before cwd rest, events = before ++ .install cwd :: rest →
        rest = [] ∧ (∀ cwd', Event.install cwd' ∉ before) ∧ cwd = p.cwd ∧
          u.Committed p w (w.log ++ before) (u.outside.replay w.log w.tree before)) ∧
      (∀ before file rest, events = before ++ .write file :: rest →
        u.DocumentWrite p w (u.outside.replay w.log w.tree before) file ∨
          u.PinWrite p w (w.log ++ before) file) ∧
      (∀ f, (u.run p w).1 = .error f → f.isCommit = false →
        (∀ before e rest, events = before ++ e :: rest → e.mutates = true →
          (∃ call, e = .engine call) ∨ ∃ file, e = .write file ∧
            u.DocumentWrite p w (u.outside.replay w.log w.tree before) file) ∧
        ∀ place, (u.run p w).2.2.tree.entryAt place ≠ w.tree.entryAt place →
          ∃ before e rest, events = before ++ e :: rest ∧
            (u.outside.after (w.log ++ before) (u.outside.replay w.log w.tree before) e).entryAt place
              ≠ (u.outside.replay w.log w.tree before).entryAt place ∧
            ((∃ call, e = .engine call) ∨ ∃ file, e = .write file ∧
              (u.outside.replay w.log w.tree before).place? file.path = some place ∧
              u.DocumentWrite p w (u.outside.replay w.log w.tree before) file)) ∧
      (∀ manager fault, (u.run p w).1 = .error (.install manager fault) →
        ∃ before new reports refreshed w₁, events = before ++ [.install p.cwd] ∧
          u.Ran p w new reports w₁ ∧ p.refresh w₁.tree = (.ok (), refreshed) ∧
          Repinned p refreshed new w₁.tree (u.outside.replay w.log w.tree before) ∧
          (u.run p w).2.2.tree = (u.parties.install (w.log ++ before) p.cwd
            (u.outside.replay w.log w.tree before)).2) := by
  obtain ⟨events, hleads, hlast⟩ := u.run_leads p w
  have hcourse := u.run_course p w
  refine ⟨events, hleads.log, hleads.tree, ?_, ?_, ?_, ?_⟩
  · rintro before cwd rest rfl
    obtain ⟨hcwd, hcommitted⟩ := hleads.every.at.install_inv
    exact ⟨hlast before cwd rest rfl, hlast.not_mem, hcwd, hcommitted⟩
  · rintro before file rest rfl
    exact hleads.every.at.write
  · intro f herror hf
    rw [herror] at hcourse
    obtain ⟨es, hes⟩ := hcourse.prepared hf
    rw [hleads.unique hes]
    refine ⟨?_, fun place => PrepareRule.exists_change hes⟩
    rintro before e rest rfl
    exact hes.every.at.mutation
  · intro manager fault herror
    rw [herror] at hcourse
    obtain ⟨new, reports, refreshed, bumped, w₁, w₂, hwet, hran, hfresh, hpin, hw⟩ :=
      hcourse.not_installed
    obtain ⟨before, hbefore, -⟩ := pinManifest_leads hran hfresh hwet hpin
    have hrepinned := (pinned_of_on hpin).repinned hfresh
    rw [hbefore.tree] at hrepinned
    refine ⟨before, new, reports, refreshed, w₁, ?_, hran, hfresh, hrepinned, ?_⟩
    · have hlog := hleads.log
      rw [hw, installed, hbefore.log, List.append_assoc] at hlog
      exact (List.append_cancel_left hlog).symm
    · rw [hw, installed, hbefore.log, hbefore.tree]

end Uplift.Upgrade
