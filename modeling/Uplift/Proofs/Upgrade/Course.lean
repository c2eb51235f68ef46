import Uplift.Proofs.Requirement
import Uplift.Proofs.Runner
import Uplift.Proofs.Upgrade.Target

set_option autoImplicit false

/-! # The course of an upgrade

An upgrade ends in one of seven ways, and `Course` lists them with all that has happened by then. It
is *refused* while nothing but questions has gone out; it is *stopped* by a codemod; the project turns
out *stale* when it is read again; the manifest stays *unpinned* or the dependencies *uninstalled*; or
it is done, *rehearsed* in a dry run and *completed* otherwise. Every property of upgrades below comes
from this list (`run_course`) and from what codemods can do, without another look at the stages. -/

namespace Uplift

/-- The same world with more events in its log. -/
def World.logged (w : World) (events : List Event) : World := { w with log := w.log ++ events }

@[simp] theorem World.logged_tree (w : World) (es : List Event) : (w.logged es).tree = w.tree := rfl

@[simp] theorem World.logged_log (w : World) (es : List Event) :
    (w.logged es).log = w.log ++ es := rfl

@[simp] theorem World.logged_nil (w : World) : w.logged [] = w := by
  simp [World.logged]

@[simp] theorem World.logged_logged (w : World) (es fs : List Event) :
    (w.logged es).logged fs = w.logged (es ++ fs) := by
  simp [World.logged]

/-- Whether a failure is one of the last two stages: the manifest could not be written, or the
    dependencies could not be installed. -/
def Failure.isCommit : Failure → Bool
  | .manifest _ _ => true
  | .install _ _ => true
  | _ => false

/-! ## Choosing codemods -/

namespace CodemodRun

open Uplift.Action

theorem on_select (r : CodemodRun) (matched : List Collection) (w : World) :
    (r.select matched).on w = match r.selector with
      | none => (.ok matched, w)
      | some selector => ((selector matched).mapError .selection,
          w.logged [.select (matched.map (·.version))]) := by
  unfold select
  cases r.selector with
  | none => rfl
  | some selector =>
    simp only
    rw [on_bind_ok (on_record _ _)]
    cases selector matched <;> rfl

theorem on_runAll (r : CodemodRun) (codemods : List Codemod) (w : World) :
    (r.runAll codemods).on w
      = (((r.project.runCodemods r.services r.dry r.parser codemods).on w).1.mapError .transform,
        ((r.project.runCodemods r.services r.dry r.parser codemods).on w).2) :=
  on_mapError _ _ w

end CodemodRun

namespace Upgrade

open Uplift.Action

/-! ## Before the codemods -/

/-- The outside of an upgrade. -/
def outside (u : Upgrade) : Outside :=
  u.services.outside fun log cwd t => (u.parties.install log cwd t).2

/-- What the requirements of an upgrade to `new` can see. -/
def context (u : Upgrade) (p : Project) (available : List Version) (new : Version) :
    UpgradeContext where
  cwd := p.cwd
  current := p.version?
  target := new
  available := available
  git := u.parties.git

/-- How the user answers questions about requirements after a log. -/
def confirmAfter (u : Upgrade) (log : List Event) : Confirm := fun seen question =>
  u.parties.confirm (log ++ seen.map .inquiry) question

/-- The gate of an upgrade is cleared by these events: the target is resolved from what the registry
    answers, and the requirements, builtin ones and others, are met. -/
inductive Cleared (u : Upgrade) (p : Project) (log : List Event) (new : Version) : List Event → Prop
  | intro {available : List Version} {inquiries : List Inquiry}
      (hfetch : u.parties.registry log p.framework.package = .ok available)
      (hresolve : resolveTarget u.target p available = .ok new)
      (hmet : Requirement.MetAll (u.context p available new)
        (u.confirmAfter (log ++ [.registry p.framework.package])) (u.chain p.version?) [] inquiries) :
      Cleared u p log new (.registry p.framework.package :: inquiries.map .inquiry)

/-- The codemods of an upgrade to `new`, and the events of choosing them. -/
inductive Chosen (u : Upgrade) (p : Project) (new : Version) : List Codemod → List Event → Prop
  | all {range : Range} (hsel : u.selector = none)
      (hrange : p.rangeTo (.exact (u.codemodsTarget.getD new)) = .ok range) :
      Chosen u p new (Collection.flattenAscending (u.repository.inRange range)) []
  | picked {range : Range} {selector : Selector} {selected : List Collection}
      (hsel : u.selector = some selector)
      (hrange : p.rangeTo (.exact (u.codemodsTarget.getD new)) = .ok range)
      (hpick : selector (u.repository.inRange range) = .ok selected) :
      Chosen u p new (Collection.flattenAscending selected)
        [.select ((u.repository.inRange range).map (·.version))]

/-- Neither clearing the gate nor choosing codemods changes files. -/
theorem Cleared.inert {u : Upgrade} {p : Project} {log gate : List Event} {new : Version}
    (h : u.Cleared p log new gate) : ∀ e ∈ gate, e.mutates = false := by
  cases h with
  | intro hfetch hresolve hmet =>
    intro e he
    rcases List.mem_cons.1 he with rfl | he
    · rfl
    · obtain ⟨i, -, rfl⟩ := List.mem_map.1 he
      rfl

theorem Chosen.inert {u : Upgrade} {p : Project} {new : Version} {codemods : List Codemod}
    {asking : List Event} (h : u.Chosen p new codemods asking) :
    ∀ e ∈ asking, e.mutates = false := by
  cases h with
  | all hsel hrange => simp
  | picked hsel hrange hpick => simp [Event.mutates]

theorem on_fetch (u : Upgrade) (package : String) (w : World) :
    (u.fetch package).on w = ((u.parties.registry w.log package).mapError (.registry package),
      w.logged [.registry package]) := by
  unfold fetch
  rw [on_bind_ok (on_get w), on_bind_ok (on_record _ _)]
  cases u.parties.registry w.log package <;> rfl

theorem on_checkRequirements (u : Upgrade) (ctx : UpgradeContext) (w : World) :
    (u.checkRequirements ctx).on w
      = ((Requirement.testAll ctx (u.confirmAfter w.log) (u.chain ctx.current) []).1.mapError .domain,
        w.logged ((Requirement.testAll ctx (u.confirmAfter w.log) (u.chain ctx.current) []).2.map
          .inquiry)) := by
  unfold checkRequirements
  rw [on_bind_ok (on_get w), on_bind_ok (on_modify _ _)]
  have hconfirm : (fun seen question => u.parties.confirm (w.log ++ seen.map .inquiry) question)
      = u.confirmAfter w.log := rfl
  rw [hconfirm]
  cases (Requirement.testAll ctx (u.confirmAfter w.log) (u.chain ctx.current) []).1 <;> rfl

theorem Resolution.not_isCommit {target : Target} {p : Project} {available : List Version}
    {f : Failure} (h : Resolution target p available (.error f)) : f.isCommit = false := by
  cases h <;> rfl

theorem runCodemods_cases (u : Upgrade) (p : Project) (new : Version) (w : World) :
    (∃ f asking, f.isCommit = false ∧ (∀ e ∈ asking, e.mutates = false) ∧
      (u.runCodemods p new).on w = (.error f, w.logged asking)) ∨
    (∃ codemods asking, u.Chosen p new codemods asking ∧
      (u.runCodemods p new).on w
        = (((p.runCodemods u.services u.dry u.parser codemods).on (w.logged asking)).1.mapError
            .transform,
          ((p.runCodemods u.services u.dry u.parser codemods).on (w.logged asking)).2)) := by
  unfold runCodemods
  cases hrange : p.rangeTo (.exact (u.codemodsTarget.getD new)) with
  | error e => exact Or.inl ⟨.domain e, [], rfl, by simp, by rw [w.logged_nil]; rfl⟩
  | ok range =>
    have hlift : (liftM ((Except.ok range : Except Error Range).mapError Failure.domain) :
        Action Failure Range).on w = (.ok range, w) := rfl
    rw [on_bind_ok hlift]
    unfold CodemodRun.runRange
    rw [on_bind, CodemodRun.on_select]
    simp only [CodemodRun.matched]
    cases hsel : u.selector with
    | none =>
      refine Or.inr ⟨_, [], .all hsel hrange, ?_⟩
      simp only [CodemodRun.on_runAll, w.logged_nil]
    | some selector =>
      simp only
      cases hpick : selector (u.repository.inRange range) with
      | error fault => exact Or.inl ⟨.selection fault, _, rfl, by simp [Event.mutates], rfl⟩
      | ok selected =>
        refine Or.inr ⟨_, _, .picked hsel hrange hpick, ?_⟩
        simp only [mapError_ok, CodemodRun.on_runAll]

/-- The stages before the refresh, once the project is known not to be at its target. -/
def proceed (u : Upgrade) (p : Project) : Action Failure (Version × List CodemodReport) := do
  let available ← u.fetch p.framework.package
  let new ← resolveTarget u.target p available
  u.checkRequirements (u.context p available new)
  let reports ← u.runCodemods p new
  return (new, reports)

/-- A project that is at its target is left alone; otherwise the upgrade proceeds. -/
theorem on_prepare (u : Upgrade) (p : Project) (w : World) :
    (∃ v, (u.prepare p).on w = (.error (.alreadyUpToDate p.framework.package v), w)) ∨
    (u.prepare p).on w = (u.proceed p).on w := by
  unfold prepare
  dsimp only
  split
  · rename_i v _
    split
    · exact Or.inl ⟨v, rfl⟩
    · exact Or.inr rfl
  · exact Or.inr rfl

/-- How the stages before the refresh go. -/
theorem prepare_cases (u : Upgrade) (p : Project) (w : World) :
    (∃ f gate, f.isCommit = false ∧ (∀ e ∈ gate, e.mutates = false) ∧
      (u.prepare p).on w = (.error f, w.logged gate)) ∨
    (∃ new codemods gate asking, u.Cleared p w.log new gate ∧ u.Chosen p new codemods asking ∧
      (u.prepare p).on w
        = ((((p.runCodemods u.services u.dry u.parser codemods).on
              (w.logged (gate ++ asking))).1.map (new, ·)).mapError .transform,
          ((p.runCodemods u.services u.dry u.parser codemods).on
            (w.logged (gate ++ asking))).2)) := by
  rcases on_prepare u p w with ⟨v, hup⟩ | hgo
  · exact Or.inl ⟨_, [], rfl, by simp, by rw [hup, w.logged_nil]⟩
  rw [hgo, proceed, on_bind, on_fetch]
  cases hfetch : u.parties.registry w.log p.framework.package with
  | error fault => exact Or.inl ⟨_, _, rfl, by simp [Event.mutates], rfl⟩
  | ok available =>
    simp only [mapError_ok]
    rw [on_bind, on_lift]
    cases hresolve : resolveTarget u.target p available with
    | error f =>
      have hresolution := resolveTarget_resolution u.target p available
      rw [hresolve] at hresolution
      exact Or.inl ⟨f, _, hresolution.not_isCommit, by simp [Event.mutates], rfl⟩
    | ok new =>
      simp only
      rw [on_bind, on_checkRequirements]
      simp only [World.logged_log, context]
      -- the outcome of the requirements decides whether the gate is cleared
      rcases htest : Requirement.testAll (u.context p available new)
        (u.confirmAfter (w.log ++ [.registry p.framework.package])) (u.chain p.version?) []
        with ⟨e | ⟨⟩, inquiries⟩
      · refine Or.inl ⟨.domain e, .registry p.framework.package :: inquiries.map .inquiry,
          rfl, ?_, ?_⟩
        · simp [Event.mutates]
        · simp only [context] at htest
          simp [htest, mapError_error]
      · have hclear :
            u.Cleared p w.log new (.registry p.framework.package :: inquiries.map .inquiry) :=
          .intro hfetch hresolve (Requirement.testAll_eq_ok_iff.1 htest)
        simp only [context] at htest
        simp only [htest, mapError_ok, World.logged_logged, List.cons_append, List.nil_append]
        rw [on_bind]
        rcases u.runCodemods_cases p new
          (w.logged (.registry p.framework.package :: inquiries.map .inquiry))
          with ⟨f, asking, hearly, hasking, hrun⟩ | ⟨codemods, asking, hchosen, hrun⟩
        · refine Or.inl ⟨f, (.registry p.framework.package :: inquiries.map .inquiry) ++ asking,
            hearly, ?_, ?_⟩
          · intro e he
            rcases List.mem_append.1 he with he | he
            · exact hclear.inert e he
            · exact hasking e he
          · rw [hrun]; simp
        · refine Or.inr ⟨new, codemods, _, asking, hclear, hchosen, ?_⟩
          rw [hrun]
          simp only [World.logged_logged]
          rcases (p.runCodemods u.services u.dry u.parser codemods).on _
            with ⟨e | reports, w₁⟩ <;> rfl

/-! ## After the codemods -/

/-- All chosen codemods have returned a report, which led to the world `w₁`. -/
inductive Ran (u : Upgrade) (p : Project) (w : World) (new : Version) (reports : List CodemodReport)
    (w₁ : World) : Prop
  | intro {codemods : List Codemod} {gate asking : List Event}
      (hclear : u.Cleared p w.log new gate) (hchosen : u.Chosen p new codemods asking)
      (hrun : (p.runCodemods u.services u.dry u.parser codemods).on (w.logged (gate ++ asking))
        = (.ok reports, w₁))
      (hreports : reports.map (·.codemod) = codemods)

/-- The manifest with the framework's dependencies pinned to another version. -/
def repinned (p : Project) (old new : Version) : Json := Manifest.bump p.manifest p.framework old new

/-- The pins of the manifest are rewritten, which leads from one world to another. -/
inductive Pinned (p : Project) (new : Version) (w : World) : List String → World → Prop
  /-- There is nothing to pin. -/
  | nothing (hpins : ∀ old, p.version? = some old → Manifest.pins p.manifest p.framework old = []) :
      Pinned p new w [] w
  /-- The manifest is written with its pins moved to the new version. -/
  | rewritten {old : Version} {tree : Tree} (hold : p.version? = some old)
      (hpins : Manifest.pins p.manifest p.framework old ≠ [])
      (hwrite : w.tree.write p.manifestPath (.text (repinned p old new).fileText) = some tree) :
      Pinned p new w (Manifest.pins p.manifest p.framework old)
        { w with tree, log := w.log ++ [.write ⟨p.manifestPath, (repinned p old new).fileText⟩] }

/-- The world after the dependencies were installed, well or not. -/
def installed (u : Upgrade) (cwd : Path) (w : World) : World :=
  { w with tree := (u.parties.install w.log cwd w.tree).2, log := w.log ++ [.install cwd] }

theorem on_install (u : Upgrade) (p : Project) (w : World) :
    (u.install p).on w = ((u.parties.install w.log p.cwd w.tree).1.mapError
      (.install u.parties.manager), u.installed p.cwd w) := by
  unfold install
  rw [on_bind_ok (on_get w), on_bind_ok (on_set _ _), on_bind_ok (on_record _ _)]
  dsimp only
  cases (u.parties.install w.log p.cwd w.tree).1 <;> rfl

theorem pinManifest_cases (p : Project) (new : Version) (w : World) :
    (∃ bumped w₁, Pinned p new w bumped w₁ ∧ (pinManifest p new).on w = (.ok bumped, w₁)) ∨
    (∃ fault, (pinManifest p new).on w = (.error (.manifest p.manifestPath fault), w)) := by
  unfold pinManifest
  split
  · rename_i hnone
    refine Or.inl ⟨[], w, .nothing ?_, rfl⟩
    intro old hold
    rw [hnone] at hold
    cases hold
  · rename_i old hold
    dsimp only
    split
    · rename_i hempty
      refine Or.inl ⟨[], w, .nothing ?_, rfl⟩
      intro old' hold'
      obtain rfl : old = old' := Option.some.inj (hold.symm.trans hold')
      exact List.isEmpty_iff.1 hempty
    · rename_i hempty
      have hpins : Manifest.pins p.manifest p.framework old ≠ [] := fun h => hempty (by rw [h]; rfl)
      rcases on_write (ε := Failure) p.manifestPath (repinned p old new).fileText w
        with ⟨tree, htree, hwrite⟩ | ⟨-, hwrite⟩
      · refine Or.inl ⟨_, _, .rewritten hold hpins htree, ?_⟩
        exact on_bind_ok hwrite _
      · exact Or.inr ⟨_, on_bind_ok hwrite _⟩

theorem pinned_of_on {p : Project} {new : Version} {w w₁ : World} {bumped : List String}
    (h : (pinManifest p new).on w = (.ok bumped, w₁)) : Pinned p new w bumped w₁ := by
  rcases pinManifest_cases p new w with ⟨bumped', w', hpin, hok⟩ | ⟨fault, herror⟩
  · rw [h] at hok
    obtain ⟨hb, rfl⟩ := Prod.mk.inj hok
    obtain rfl := Except.ok.inj hb
    exact hpin
  · rw [h] at herror
    cases herror

/-! ## The course as a whole -/

/-- How an upgrade from the world `w` can end: the outcome, and the project and the world after it. -/
inductive Course (u : Upgrade) (p : Project) (w : World) :
    Except Failure Upgraded → Project → World → Prop
  /-- It ended before anything was changed. -/
  | refused {f : Failure} {gate : List Event} (hearly : f.isCommit = false)
      (hgate : ∀ e ∈ gate, e.mutates = false) :
      Course u p w (.error f) p (w.logged gate)
  /-- A codemod failed as a whole. -/
  | stopped {new : Version} {codemods : List Codemod} {gate asking : List Event} {e : TransformError}
      {w₁ : World} (hclear : u.Cleared p w.log new gate) (hchosen : u.Chosen p new codemods asking)
      (hrun : (p.runCodemods u.services u.dry u.parser codemods).on (w.logged (gate ++ asking))
        = (.error e, w₁)) : Course u p w (.error (.transform e)) p w₁
  /-- The project could not be read again. -/
  | stale {new : Version} {reports : List CodemodReport} {e : Error} {refreshed : Project}
      {w₁ : World} (hran : u.Ran p w new reports w₁)
      (hfresh : p.refresh w₁.tree = (.error e, refreshed)) :
      Course u p w (.error (.domain e)) refreshed w₁
  /-- It was a dry run. -/
  | rehearsed {new : Version} {reports : List CodemodReport} {refreshed : Project} {w₁ : World}
      (hran : u.Ran p w new reports w₁) (hfresh : p.refresh w₁.tree = (.ok (), refreshed))
      (hdry : u.dry = true) :
      Course u p w (.ok { old := p.version?, new, reports, bumped := [] }) refreshed w₁
  /-- The manifest could not be written. -/
  | unpinned {new : Version} {reports : List CodemodReport} {refreshed : Project} {w₁ : World}
      {fault : Fault} (hran : u.Ran p w new reports w₁)
      (hfresh : p.refresh w₁.tree = (.ok (), refreshed)) (hwet : u.dry = false) :
      Course u p w (.error (.manifest refreshed.manifestPath fault)) refreshed w₁
  /-- The dependencies could not be installed. -/
  | uninstalled {new : Version} {reports : List CodemodReport} {refreshed : Project} {w₁ w₂ : World}
      {bumped : List String} {fault : Fault} (hran : u.Ran p w new reports w₁)
      (hfresh : p.refresh w₁.tree = (.ok (), refreshed)) (hwet : u.dry = false)
      (hpin : (pinManifest refreshed new).on w₁ = (.ok bumped, w₂)) :
      Course u p w (.error (.install u.parties.manager fault)) refreshed
        (u.installed refreshed.cwd w₂)
  /-- All went well. -/
  | completed {new : Version} {reports : List CodemodReport} {refreshed : Project} {w₁ w₂ : World}
      {bumped : List String} (hran : u.Ran p w new reports w₁)
      (hfresh : p.refresh w₁.tree = (.ok (), refreshed)) (hwet : u.dry = false)
      (hpin : (pinManifest refreshed new).on w₁ = (.ok bumped, w₂)) :
      Course u p w (.ok { old := p.version?, new, reports, bumped }) refreshed
        (u.installed refreshed.cwd w₂)

theorem commit_cases (u : Upgrade) (p : Project) (new : Version) (w : World) (hwet : u.dry = false) :
    (∃ fault, (u.commit p new).on w = (.error (.manifest p.manifestPath fault), w)) ∨
    (∃ bumped w₁, (pinManifest p new).on w = (.ok bumped, w₁) ∧
      ((∃ fault, (u.commit p new).on w
        = (.error (.install u.parties.manager fault), u.installed p.cwd w₁)) ∨
      (u.commit p new).on w = (.ok bumped, u.installed p.cwd w₁))) := by
  unfold commit
  simp only [hwet, Bool.false_eq_true, ↓reduceIte]
  rcases pinManifest_cases p new w with ⟨bumped, w₁, -, hok⟩ | ⟨fault, herror⟩
  · refine Or.inr ⟨bumped, w₁, hok, ?_⟩
    rw [on_bind_ok hok, on_bind, on_install]
    cases (u.parties.install w₁.log p.cwd w₁.tree).1 with
    | error fault => exact Or.inl ⟨fault, rfl⟩
    | ok _ => exact Or.inr rfl
  · exact Or.inl ⟨fault, on_bind_error herror _⟩

/-- **Every upgrade takes one of the courses.** -/
theorem run_course (u : Upgrade) (p : Project) (w : World) :
    Course u p w (u.run p w).1 (u.run p w).2.1 (u.run p w).2.2 := by
  unfold run
  rcases u.prepare_cases p w with
    ⟨f, gate, hearly, hgate, hprep⟩ | ⟨new, codemods, gate, asking, hclear, hchosen, hprep⟩
  · rw [hprep]
    exact .refused hearly hgate
  rcases hrun : (p.runCodemods u.services u.dry u.parser codemods).on (w.logged (gate ++ asking))
    with ⟨e | reports, w₁⟩ <;> rw [hrun] at hprep
  · rw [hprep]
    exact .stopped hclear hchosen hrun
  · have hran : u.Ran p w new reports w₁ :=
      .intro hclear hchosen hrun (Project.runCodemods_codemods hrun)
    simp only [hprep, Except.map, mapError_ok]
    rcases hfresh : p.refresh w₁.tree with ⟨e | _, refreshed⟩
    · exact .stale hran hfresh
    · cases hdry : u.dry with
      | true =>
        have hskip : (u.commit refreshed new).on w₁ = (.ok [], w₁) := by
          simp [commit, hdry]
        simp only [hskip]
        exact .rehearsed hran hfresh hdry
      | false =>
        rcases u.commit_cases refreshed new w₁ hdry with
          ⟨fault, hcommit⟩ | ⟨bumped, w₂, hpin, ⟨fault, hcommit⟩ | hcommit⟩
        · simp only [hcommit]
          exact .unpinned hran hfresh hdry
        · simp only [hcommit]
          exact .uninstalled hran hfresh hdry hpin
        · simp only [hcommit]
          exact .completed hran hfresh hdry hpin

end Upgrade

end Uplift
