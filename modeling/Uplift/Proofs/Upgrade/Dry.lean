import Uplift.Proofs.Upgrade.Effects

set_option autoImplicit false

/-! # Dry runs

A dry run tells the engine to run dry, writes no file itself and installs nothing. If the engine keeps
its side, which is to write nothing when it is told so, all files stay as they are. This goes for
upgrades and for runs of codemods, however these are chosen. -/

namespace Uplift

open Uplift.Action

/-- The engine changes no file when it is called dry. -/
def Engine.HonoursDry (engine : Engine) : Prop :=
  ∀ log call t, call.dry = true → (engine log call t).2 = t

/-- All that a dry run may do: ask questions and call the engine dry. -/
def DryRule : EventRule := fun _ _ e => e.mutates = true → ∃ call, e = .engine call ∧ call.dry = true

/-- A run from `w` to `w'` was dry: of the events that can change files there were only dry calls of
    the engine, and with an engine that honours them the files are the same. -/
structure DryRun (engine : Engine) (w w' : World) : Prop where
  events : ∃ events, w'.log = w.log ++ events ∧
    ∀ e ∈ events, e.mutates = true → ∃ call, e = .engine call ∧ call.dry = true
  tree : engine.HonoursDry → w'.tree = w.tree

theorem Leads.dryRun {s : Services} {install : List Event → Path → Tree → Tree} {w w' : World}
    {es : List Event} (h : Leads (s.outside install) DryRule w es w') : DryRun s.engine w w' where
  events := by
    refine ⟨es, h.log, fun e hmem => ?_⟩
    obtain ⟨before, rest, rfl⟩ := List.append_of_mem hmem
    exact h.every.at
  tree := by
    intro hengine
    refine h.tree_eq fun log t e he => ?_
    cases hmut : e.mutates with
    | false => exact (s.outside install).after_of_not_mutates log t hmut
    | true =>
      obtain ⟨call, rfl, hcall⟩ := he hmut
      exact hengine log call t hcall

theorem Project.CodemodRule.dryRule {p : Project} {s : Services} {dry : Bool} {parser : Option String}
    {codemods : List Codemod} {start : World} {log : List Event} {t : Tree} {e : Event}
    (h : p.CodemodRule s dry parser codemods start log t e) (hdry : dry = true) :
    DryRule log t e := by
  intro _
  cases h with
  | engine hc hkind => exact ⟨_, rfl, hdry⟩
  | write _ _ hwet _ _ _ => rw [hdry] at hwet; cases hwet

/-! ## Codemod runs -/

namespace CodemodRun

variable {r : CodemodRun} {install : List Event → Path → Tree → Tree}

theorem runAll_dry (hdry : r.dry = true) (codemods : List Codemod) (w : World) :
    Does (r.services.outside install) DryRule (r.runAll codemods) w :=
  ((Project.runCodemods_does codemods w).mono fun _ _ _ he => he.dryRule hdry).mapError _

theorem runRange_dry (hdry : r.dry = true) (range : Range) (w : World) :
    Does (r.services.outside install) DryRule (r.runRange range) w := by
  refine Does.bind ?_ fun selected w' _ => runAll_dry hdry _ w'
  cases hsel : r.selector with
  | none =>
    refine ⟨[], ?_⟩
    rw [on_select, hsel]
    exact Leads.nothing rfl rfl
  | some selector =>
    refine ⟨[.select ((r.matched range).map (·.version))], ?_⟩
    rw [on_select, hsel]
    exact Leads.single (fun he => by cases he) rfl rfl

theorem run_dry (hdry : r.dry = true) (selection : Selection) (w : World) :
    Does (r.services.outside install) DryRule (r.run selection) w := by
  cases selection with
  | uid uid =>
    simp only [run, runUid]
    split
    · exact Does.throw _ w
    · exact runAll_dry hdry _ w
  | range range => exact runRange_dry hdry range w
  | pending =>
    simp only [run]
    split
    · exact runRange_dry hdry _ w
    · exact Does.throw _ w

end CodemodRun

/-! ## Upgrades -/

namespace Upgrade

variable {u : Upgrade} {p : Project} {w : World}

/-- In a dry upgrade, codemods are run dry and the later stages are left out. -/
theorem UpgradeRule.dryRule {log : List Event} {t : Tree} {e : Event}
    (h : u.UpgradeRule p w log t e) (hdry : u.dry = true) : DryRule log t e := by
  cases h with
  | prepare h =>
    cases h with
    | ask hask => intro he; rw [hask] at he; cases he
    | codemod _ _ _ he => exact he.dryRule hdry
  | pin _ _ hwet _ => rw [hdry] at hwet; cases hwet
  | install _ _ hwet _ => rw [hdry] at hwet; cases hwet

theorem run_dry (hdry : u.dry = true) : DryRun u.services.engine w (u.run p w).2.2 := by
  obtain ⟨es, hes, -⟩ := u.run_leads p w
  exact (hes.mono fun _ _ _ he => he.dryRule hdry).dryRun

theorem Course.bumped_of_dry {up : Upgraded} {p' : Project} {w' : World}
    (h : u.Course p w (.ok up) p' w') (hdry : u.dry = true) : up.bumped = [] := by
  cases h with
  | rehearsed _ _ _ => rfl
  | completed _ _ hwet _ => rw [hdry] at hwet; cases hwet

end Upgrade

/-- **Dry runs change nothing**, be it upgrades or codemod runs, whatever the files, the codemods and
    the parties: files stay the same, no file is written and nothing is installed, every call of the
    engine is dry, and no dependency counts as pinned. -/
theorem dry_changes_nothing :
    (∀ (u : Upgrade) (p : Project) (w : World), u.dry = true →
      DryRun u.services.engine w (u.run p w).2.2 ∧
        ∀ up, (u.run p w).1 = .ok up → up.bumped = []) ∧
    (∀ (r : CodemodRun) (selection : Selection) (w : World), r.dry = true →
      DryRun r.services.engine w ((r.run selection).on w).2) := by
  constructor
  · intro u p w hdry
    refine ⟨Upgrade.run_dry hdry, fun up hup => ?_⟩
    have hcourse := u.run_course p w
    rw [hup] at hcourse
    exact hcourse.bumped_of_dry hdry
  · intro r selection w hdry
    obtain ⟨es, hes⟩ : Does (r.services.outside fun _ _ t => t) DryRule (r.run selection) w :=
      CodemodRun.run_dry hdry selection w
    exact hes.dryRun

/-- A dry run of one code codemod on one file, with an engine that overwrites the file unless it is
    told to run dry. -/
def rehearsal : CodemodRun where
  project := {
    cwd := ⟨"/app"⟩, framework := ⟨"core"⟩, manifestPath := ⟨"/app/package.json"⟩,
    manifest := .obj [], kind := .plugin, files := [⟨"/app/main.ts"⟩] }
  repository := {
    root := ⟨"/codemods"⟩,
    collections := [⟨.release 5 0 0, [⟨.code, .release 5 0 0, ⟨"/codemods/5.0.0"⟩, "a.code.ts"⟩]⟩] }
  services := {
    engine := fun _ call t =>
      (.report { ok := 1 }, if call.dry then t else t.put ["app", "main.ts"] (.file (.text "new"))) }
  dry := true

/-- The engine is called once, dry, and the file keeps its text. -/
theorem dry_changes_nothing_rehearsal :
    let files : Tree := .dir [("app", .dir [("main.ts", .file (.text "old"))])]
    let after := ((rehearsal.run .pending).on { tree := files }).2
    rehearsal.services.engine.HonoursDry ∧ DryRun rehearsal.services.engine { tree := files } after ∧
      after.tree = files ∧ ∃ call, after.log = [.engine call] ∧ call.dry = true := by
  have hengine : rehearsal.services.engine.HonoursDry := by
    intro log call t hcall
    simp [rehearsal, hcall]
  have hdry := dry_changes_nothing.2 rehearsal .pending
    { tree := .dir [("app", .dir [("main.ts", .file (.text "old"))])] } rfl
  exact ⟨hengine, hdry, hdry.tree hengine, _, rfl, rfl⟩

end Uplift
