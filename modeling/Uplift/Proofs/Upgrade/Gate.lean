import Uplift.Proofs.Project
import Uplift.Proofs.Upgrade.Effects

set_option autoImplicit false

/-! # Nothing is changed before the gate

An upgrade writes no file, calls no engine and installs nothing unless its gate was cleared before in
the same run: the target was resolved, and every requirement that was reached passed or was waved
through. So an upgrade that was refused, for whatever reason and at whatever point, has left all files
as they were. -/

namespace Uplift

/-- Whether a failure is a refusal: the project was up to date, the target could not be resolved, a
    requirement was not met, or codemods could not be chosen. -/
def Failure.isRefusal : Failure → Bool
  | .alreadyUpToDate _ _ => true
  | .registry _ _ => true
  | .noCandidate _ _ => true
  | .domain (.invalidTarget _ _) => true
  | .domain (.requirementFailed _ _) => true
  | .selection _ => true
  | _ => false

/-- Reading the project again never counts as a refusal. -/
theorem Error.OfRefresh.not_isRefusal {e : Error} (h : e.OfRefresh) :
    (Failure.domain e).isRefusal = false := by
  cases h <;> rfl

namespace Upgrade

variable {u : Upgrade} {p : Project} {w w₁ : World}

/-- By the time that all codemods have returned, the gate was cleared. -/
theorem Ran.cleared {new : Version} {reports : List CodemodReport} (h : u.Ran p w new reports w₁) :
    ∃ gate, u.Cleared p w.log new gate ∧ w.log ++ gate <+: w₁.log := by
  obtain ⟨hclear, hchosen, hrun, -⟩ := h
  obtain ⟨es, hes, -⟩ := codemods_leads hclear hchosen
  rw [hrun] at hes
  refine ⟨_, hclear, ?_⟩
  rw [hes.log]
  simp [List.append_assoc]

theorem Pinned.log_extends {refreshed : Project} {new : Version} {bumped : List String} {w₂ : World}
    (h : Pinned refreshed new w₁ bumped w₂) : w₁.log <+: w₂.log := by
  cases h with
  | nothing hpins => exact List.prefix_refl _
  | rewritten hold hpins hwrite => exact List.prefix_append _ _

/-- Whatever changes files comes after the gate was cleared. -/
theorem UpgradeRule.cleared {log : List Event} {t : Tree} {e : Event}
    (h : u.UpgradeRule p w log t e) (he : e.mutates = true) :
    ∃ new gate, u.Cleared p w.log new gate ∧ w.log ++ gate <+: log := by
  cases h with
  | prepare h =>
    cases h with
    | ask hask => rw [hask] at he; cases he
    | codemod hclear hchosen hlog _ =>
      refine ⟨_, _, hclear, List.IsPrefix.trans ?_ hlog⟩
      simp [← List.append_assoc]
  | pin hran hfresh hwet hold =>
    obtain ⟨gate, hclear, hgate⟩ := hran.cleared
    exact ⟨_, gate, hclear, hgate⟩
  | install hran hfresh hwet hpin =>
    obtain ⟨gate, hclear, hgate⟩ := hran.cleared
    exact ⟨_, gate, hclear, hgate.trans (pinned_of_on hpin).log_extends⟩

/-- A refused upgrade has only asked questions. -/
theorem Course.refusal {f : Failure} {p' : Project} {w' : World}
    (h : u.Course p w (.error f) p' w') (hf : f.isRefusal = true) :
    ∃ gate, (∀ e ∈ gate, e.mutates = false) ∧ w' = w.logged gate := by
  cases h with
  | refused hearly hgate => exact ⟨_, hgate, rfl⟩
  | stopped _ _ _ => cases hf
  | stale _ hfresh =>
    rw [(Project.refresh_error hfresh).not_isRefusal] at hf
    cases hf
  | unpinned _ _ _ => cases hf
  | uninstalled _ _ _ _ => cases hf

/-- **The gate comes first.** The events of an upgrade account for all changes of its files. Before
    each of them that can change files the gate was cleared, and after a refusal there is none: the
    files are those from before. -/
theorem run_gated (u : Upgrade) (p : Project) (w : World) :
    ∃ events, (u.run p w).2.2.log = w.log ++ events ∧
      (u.run p w).2.2.tree = u.outside.replay w.log w.tree events ∧
      (∀ before e rest, events = before ++ e :: rest → e.mutates = true →
        ∃ new gate, u.Cleared p w.log new gate ∧ gate <+: before) ∧
      (∀ f, (u.run p w).1 = .error f → f.isRefusal = true →
        (u.run p w).2.2.tree = w.tree ∧ ∀ e ∈ events, e.mutates = false) := by
  obtain ⟨events, hleads, -⟩ := u.run_leads p w
  refine ⟨events, hleads.log, hleads.tree, ?_, ?_⟩
  · rintro before e rest rfl he
    obtain ⟨new, gate, hclear, hgate⟩ := hleads.every.at.cleared he
    exact ⟨new, gate, hclear, (List.prefix_append_right_inj w.log).1 hgate⟩
  · intro f herror hf
    have hcourse := u.run_course p w
    rw [herror] at hcourse
    obtain ⟨gate, hgate, hw⟩ := hcourse.refusal hf
    have hasked : Leads u.outside (fun _ _ _ => True) w gate (u.run p w).2.2 := by
      rw [hw]
      exact Leads.inert (fun _ _ _ _ => trivial) hgate
    have hevents : events = gate := hleads.unique hasked
    exact ⟨by rw [hw, World.logged_tree], by rw [hevents]; exact hgate⟩

end Upgrade

end Uplift
