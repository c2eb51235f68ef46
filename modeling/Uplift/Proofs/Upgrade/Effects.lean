import Uplift.Proofs.Upgrade.Course

set_option autoImplicit false

/-! # What an upgrade can do to the files

`UpgradeRule` lists all that can go out of the program in an upgrade, each with what has to have
happened before: questions are asked at any time; codemods run once the gate is cleared and codemods
are chosen; the manifest is written and dependencies are installed once all codemods have returned
and the project has been read again. Every upgrade obeys it (`run_leads`). -/

namespace Uplift

open Uplift.Action

namespace Leads

variable {o : Outside} {P : EventRule} {w w₁ : World} {es : List Event}

/-- Events that cannot change files are logged, and that is all. -/
theorem inert (hP : ∀ log t e, e.mutates = false → P log t e) (hes : ∀ e ∈ es, e.mutates = false) :
    Leads o P w es (w.logged es) := by
  induction es generalizing w with
  | nil => exact nothing (by simp) rfl
  | cons e es ih =>
    have he : e.mutates = false := hes e List.mem_cons_self
    have hhead : Leads o P w [e] (w.logged [e]) :=
      single (hP _ _ e he) rfl (o.after_of_not_mutates _ _ he).symm
    have htail := ih (w := w.logged [e]) fun e' he' => hes e' (List.mem_cons_of_mem e he')
    simpa using hhead.trans htail

/-- Whatever happens on the way, the log goes on from where it was. -/
theorem onward (h : Leads o P w es w₁) :
    Leads o (fun log t e => w.log <+: log ∧ P log t e) w es w₁ where
  log := h.log
  tree := h.tree
  every := by
    obtain ⟨-, -, hevery⟩ := h
    suffices ∀ (log : List Event) (t : Tree), w.log <+: log → o.Every P log t es →
        o.Every (fun log t e => w.log <+: log ∧ P log t e) log t es from
      this w.log w.tree (List.prefix_refl w.log) hevery
    clear hevery
    intro log t hlog hes
    induction es generalizing log t with
    | nil => trivial
    | cons e es ih => exact ⟨⟨hlog, hes.1⟩, ih _ _ (hlog.trans (List.prefix_append log [e])) hes.2⟩

/-- The worlds at both ends tell what happened between them. -/
theorem unique {Q : EventRule} {fs : List Event} (h : Leads o P w es w₁) (h' : Leads o Q w fs w₁) :
    es = fs :=
  List.append_cancel_left (h.log.symm.trans h'.log)

end Leads

namespace Upgrade

variable {u : Upgrade} {p : Project} {w w₁ : World}

/-- What an upgrade of `p` that started in the world `w` may do until it reads the project again. -/
inductive PrepareRule (u : Upgrade) (p : Project) (w : World) : List Event → Tree → Event → Prop
  /-- Ask the registry, test a requirement, or put collections up for selection. -/
  | ask {log : List Event} {t : Tree} {e : Event} (he : e.mutates = false) : PrepareRule u p w log t e
  /-- Run one of the chosen codemods. -/
  | codemod {log : List Event} {t : Tree} {e : Event} {new : Version} {codemods : List Codemod}
      {gate asking : List Event} (hclear : u.Cleared p w.log new gate)
      (hchosen : u.Chosen p new codemods asking) (hlog : w.log ++ (gate ++ asking) <+: log)
      (he : p.CodemodRule u.services u.dry u.parser codemods (w.logged (gate ++ asking)) log t e) :
      PrepareRule u p w log t e

/-- What an upgrade of `p` that started in the world `w` may do. -/
inductive UpgradeRule (u : Upgrade) (p : Project) (w : World) : List Event → Tree → Event → Prop
  /-- Prepare. -/
  | prepare {log : List Event} {t : Tree} {e : Event} (he : PrepareRule u p w log t e) :
      UpgradeRule u p w log t e
  /-- Write the manifest with its pins moved. -/
  | pin {new : Version} {reports : List CodemodReport} {refreshed : Project} {old : Version}
      {w₁ : World} (hran : u.Ran p w new reports w₁)
      (hfresh : p.refresh w₁.tree = (.ok (), refreshed)) (hwet : u.dry = false)
      (hold : refreshed.version? = some old) :
      UpgradeRule u p w w₁.log w₁.tree
        (.write ⟨refreshed.manifestPath, (repinned refreshed old new).fileText⟩)
  /-- Install the dependencies. -/
  | install {new : Version} {reports : List CodemodReport} {refreshed : Project}
      {bumped : List String} {w₁ w₂ : World} (hran : u.Ran p w new reports w₁)
      (hfresh : p.refresh w₁.tree = (.ok (), refreshed)) (hwet : u.dry = false)
      (hpin : (pinManifest refreshed new).on w₁ = (.ok bumped, w₂)) :
      UpgradeRule u p w w₂.log w₂.tree (.install refreshed.cwd)

/-! ## Stage by stage -/

theorem codemods_leads {new : Version} {codemods : List Codemod} {gate asking : List Event}
    (hclear : u.Cleared p w.log new gate) (hchosen : u.Chosen p new codemods asking) :
    ∃ es, Leads u.outside (u.PrepareRule p w) w ((gate ++ asking) ++ es)
        ((p.runCodemods u.services u.dry u.parser codemods).on (w.logged (gate ++ asking))).2 ∧
      ∀ cwd, Event.install cwd ∉ (gate ++ asking) ++ es := by
  have hinert : ∀ e ∈ gate ++ asking, e.mutates = false := by
    intro e he
    rcases List.mem_append.1 he with he | he
    · exact hclear.inert e he
    · exact hchosen.inert e he
  obtain ⟨es, hes⟩ : Does u.outside _ (p.runCodemods u.services u.dry u.parser codemods)
      (w.logged (gate ++ asking)) := Project.runCodemods_does codemods _
  refine ⟨es, (Leads.inert (fun _ _ _ => .ask) hinert).trans (hes.onward.mono ?_), ?_⟩
  · rintro log t e ⟨hlog, he⟩
    exact .codemod hclear hchosen hlog he
  · intro cwd hmem
    rcases List.mem_append.1 hmem with hmem | hmem
    · cases hinert _ hmem
    · -- codemods never install
      obtain ⟨before, rest, rfl⟩ := List.append_of_mem hmem
      cases hes.every.at

theorem Ran.leads {new : Version} {reports : List CodemodReport} (h : u.Ran p w new reports w₁) :
    ∃ es, Leads u.outside (u.PrepareRule p w) w es w₁ ∧ ∀ cwd, Event.install cwd ∉ es := by
  obtain ⟨hclear, hchosen, hrun, -⟩ := h
  obtain ⟨es, hes, hnone⟩ := codemods_leads hclear hchosen
  rw [hrun] at hes
  exact ⟨_, hes, hnone⟩

theorem pinManifest_leads {new : Version} {reports : List CodemodReport} {refreshed : Project}
    {bumped : List String} {w₂ : World} (hran : u.Ran p w new reports w₁)
    (hfresh : p.refresh w₁.tree = (.ok (), refreshed)) (hwet : u.dry = false)
    (hpin : (pinManifest refreshed new).on w₁ = (.ok bumped, w₂)) :
    ∃ es, Leads u.outside (u.UpgradeRule p w) w es w₂ ∧ ∀ cwd, Event.install cwd ∉ es := by
  obtain ⟨es, hes, hnone⟩ := hran.leads
  have hes : Leads u.outside (u.UpgradeRule p w) w es w₁ := hes.mono fun _ _ _ => .prepare
  cases pinned_of_on hpin with
  | nothing hpins => exact ⟨es, hes, hnone⟩
  | rewritten hold hpins hwrite =>
    refine ⟨es ++ [_], hes.trans (Leads.single (.pin hran hfresh hwet hold) rfl ?_), ?_⟩
    · simp [Outside.after, hwrite]
    · intro cwd hmem
      rcases List.mem_append.1 hmem with hmem | hmem
      · exact hnone cwd hmem
      · simp at hmem

/-- An upgrade that fails before its last stages has only prepared. -/
theorem Course.prepared {f : Failure} {p' : Project} {w' : World} (h : u.Course p w (.error f) p' w')
    (hf : f.isCommit = false) :
    ∃ es, Leads u.outside (u.PrepareRule p w) w es w' := by
  cases h with
  | refused hearly hgate => exact ⟨_, Leads.inert (fun _ _ _ => .ask) hgate⟩
  | stopped hclear hchosen hrun =>
    obtain ⟨es, hes, -⟩ := codemods_leads hclear hchosen
    rw [hrun] at hes
    exact ⟨_, hes⟩
  | stale hran hfresh =>
    obtain ⟨es, hes, -⟩ := hran.leads
    exact ⟨es, hes⟩
  | unpinned _ _ _ => cases hf
  | uninstalled _ _ _ _ => cases hf

/-- Nothing comes after the installation. -/
def InstallsLast (es : List Event) : Prop :=
  ∀ before cwd rest, es = before ++ .install cwd :: rest → rest = []

theorem installsLast_of_not_mem {es : List Event} (h : ∀ cwd, Event.install cwd ∉ es) :
    InstallsLast es := by
  rintro before cwd rest rfl
  exact absurd (List.mem_append_right before List.mem_cons_self) (h cwd)

theorem installsLast_append {es : List Event} (h : ∀ cwd, Event.install cwd ∉ es) (cwd : Path) :
    InstallsLast (es ++ [.install cwd]) := by
  intro before cwd' rest heq
  rcases List.eq_nil_or_concat rest with rfl | ⟨rest, last, rfl⟩
  · rfl
  · -- otherwise an installation is among the events before the last
    rw [List.concat_eq_append, ← List.cons_append, ← List.append_assoc] at heq
    obtain ⟨rfl, -⟩ := List.append_inj' heq rfl
    exact absurd (List.mem_append_right before List.mem_cons_self) (h cwd')

/-- Every course obeys the rule, and installs last. -/
theorem Course.leads {outcome : Except Failure Upgraded} {p' : Project} {w' : World}
    (h : u.Course p w outcome p' w') :
    ∃ es, Leads u.outside (u.UpgradeRule p w) w es w' ∧ InstallsLast es := by
  have hinstall {new : Version} {reports : List CodemodReport} {refreshed : Project}
      {bumped : List String} {w₁ w₂ : World} (hran : u.Ran p w new reports w₁)
      (hfresh : p.refresh w₁.tree = (.ok (), refreshed)) (hwet : u.dry = false)
      (hpin : (pinManifest refreshed new).on w₁ = (.ok bumped, w₂)) :
      ∃ es, Leads u.outside (u.UpgradeRule p w) w es (u.installed refreshed.cwd w₂) ∧
        InstallsLast es := by
    obtain ⟨es, hes, hnone⟩ := pinManifest_leads hran hfresh hwet hpin
    exact ⟨es ++ [.install refreshed.cwd],
      hes.trans (Leads.single (.install hran hfresh hwet hpin) rfl rfl), installsLast_append hnone _⟩
  have hprepare {w' : World} {es : List Event} (hes : Leads u.outside (u.PrepareRule p w) w es w')
      (hnone : ∀ cwd, Event.install cwd ∉ es) :
      ∃ es, Leads u.outside (u.UpgradeRule p w) w es w' ∧ InstallsLast es :=
    ⟨es, hes.mono fun _ _ _ => .prepare, installsLast_of_not_mem hnone⟩
  cases h with
  | refused hearly hgate =>
    refine hprepare (Leads.inert (fun _ _ _ => .ask) hgate) fun cwd hmem => ?_
    cases hgate _ hmem
  | stopped hclear hchosen hrun =>
    obtain ⟨es, hes, hnone⟩ := codemods_leads hclear hchosen
    rw [hrun] at hes
    exact hprepare hes hnone
  | stale hran hfresh =>
    obtain ⟨es, hes, hnone⟩ := hran.leads
    exact hprepare hes hnone
  | rehearsed hran hfresh hdry =>
    obtain ⟨es, hes, hnone⟩ := hran.leads
    exact hprepare hes hnone
  | unpinned hran hfresh hwet =>
    obtain ⟨es, hes, hnone⟩ := hran.leads
    exact hprepare hes hnone
  | uninstalled hran hfresh hwet hpin => exact hinstall hran hfresh hwet hpin
  | completed hran hfresh hwet hpin => exact hinstall hran hfresh hwet hpin

/-- **An upgrade does nothing but what `UpgradeRule` lists**, and installs last. -/
theorem run_leads (u : Upgrade) (p : Project) (w : World) :
    ∃ es, Leads u.outside (u.UpgradeRule p w) w es (u.run p w).2.2 ∧ InstallsLast es :=
  (u.run_course p w).leads

end Upgrade

end Uplift
