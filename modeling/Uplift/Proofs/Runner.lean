import Uplift.Proofs.World
import Uplift.Runner

set_option autoImplicit false

/-! # What running codemods can do

A run of codemods talks to the outside in two ways only (`CodemodRule`): it calls the engine for a
code codemod, with the sources of the project and with the dry flag it was given itself; and, unless
it is dry, it writes a scanned document that the transform of a document codemod has changed. All
that happens to the files on the way is one of these two (`Project.runCodemods_does`). -/

namespace Uplift

/-- The outside of a codemod run, next to some package manager. -/
def Services.outside (s : Services) (install : List Event → Path → Tree → Tree) : Outside where
  engine log call t := (s.engine log call t).2
  install := install

namespace Runner

open Uplift.Action

variable {s : Services} {install : List Event → Path → Tree → Tree}

/-! ## Code -/

/-- How a code codemod is handed to the engine. -/
def callFor (config : RunConfig) (c : Codemod) (paths : List Path) : EngineCall where
  transform := c.path
  paths := paths
  dry := config.dry
  extensions := Kind.code.extensions
  parser := config.parser
  cwd := config.cwd

/-- Handing files to the engine changes the files as the engine does, and is logged, whatever the
    engine answers. -/
theorem on_runCode (config : RunConfig) (c : Codemod) {paths : List Path} (hp : paths.isEmpty = false)
    (w : World) :
    ((runCode s config c paths).on w).2 = { w with
      tree := (s.engine w.log (callFor config c paths) w.tree).2,
      log := w.log ++ [.engine (callFor config c paths)] } := by
  unfold runCode
  simp only [hp, Bool.false_eq_true, ↓reduceIte]
  rw [on_bind_ok (on_get w), on_bind_ok (on_set _ _), on_bind_ok (on_record _ _)]
  split <;> rfl

theorem runCode_does (config : RunConfig) (c : Codemod) (paths : List Path) (w : World) :
    Does (s.outside install) (fun _ _ e => e = .engine (callFor config c paths))
      (runCode s config c paths) w := by
  cases hp : paths.isEmpty with
  | true =>
    refine ⟨[], ?_⟩
    simp only [runCode, hp, ↓reduceIte]
    exact Leads.nothing rfl rfl
  | false =>
    refine ⟨[.engine (callFor config c paths)], ?_⟩
    rw [on_runCode config c hp w]
    exact Leads.single rfl rfl rfl

/-! ## Documents -/

theorem transformOf_frame (c : Codemod) (w : World) :
    ((transformOf s c).on w).2.tree = w.tree ∧ ((transformOf s c).on w).2.log = w.log := by
  unfold transformOf
  rw [on_bind_ok (on_get w)]
  split
  · exact ⟨rfl, rfl⟩
  · split
    · exact ⟨rfl, rfl⟩
    · exact ⟨rfl, rfl⟩

/-- A transform writes a document that it has changed. -/
def DocumentRule (dry : Bool) (transform : Transform) (paths : List Path) : EventRule :=
  fun _ t e => dry = false ∧ ∃ path ∈ paths, ∃ text,
    newText t transform path = some (some text) ∧ e = .write ⟨path, text⟩

theorem runFile_does {o : Outside} {dry : Bool} {transform : Transform} {paths : List Path}
    {path : Path} (hp : path ∈ paths) (w : World) :
    Does o (DocumentRule dry transform paths) (runFile dry transform path) w := by
  unfold runFile
  refine Does.bind (Does.get w) fun x w' hx => ?_
  obtain ⟨rfl, rfl⟩ : w = x ∧ w = w' := by simpa using hx
  split
  · exact Does.pure _ w
  · exact Does.pure _ w
  · rename_i text htext
    cases dry with
    | true => exact Does.pure _ w
    | false =>
      refine Does.bind (Does.write ⟨rfl, path, hp, text, htext, rfl⟩) fun written w' _ => ?_
      exact Does.pure _ w'

theorem runFiles_does {o : Outside} {dry : Bool} {transform : Transform} {all : List Path}
    (r : Report) {paths : List Path} (hp : ∀ path ∈ paths, path ∈ all) (w : World) :
    Does o (DocumentRule dry transform all) (runFiles dry transform r paths) w := by
  induction paths generalizing r w with
  | nil => exact Does.pure r w
  | cons path rest ih =>
    refine Does.bind (runFile_does (hp path List.mem_cons_self) w) fun outcome w' _ => ?_
    exact ih (tally r outcome) (fun q hq => hp q (List.mem_cons_of_mem path hq)) w'

theorem on_runDocument (config : RunConfig) (c : Codemod) (paths : List Path) (w : World) :
    (runDocument s config c paths).on w = match (transformOf s c).on w with
      | (.ok transform, w) => (runFiles config.dry transform {} paths).on w
      | (.error _, w) => (.ok { error := paths.length }, w) := rfl

/-- A document codemod writes only what its transform, as loaded when it starts, has changed. -/
theorem runDocument_does {o : Outside} (config : RunConfig) (c : Codemod) (paths : List Path)
    (w : World) :
    Does o (fun log t e => ∃ transform, ((transformOf s c).on w).1 = .ok transform ∧
      DocumentRule config.dry transform paths log t e) (runDocument s config c paths) w := by
  obtain ⟨htree, hlog⟩ := transformOf_frame (s := s) c w
  rcases hload : (transformOf s c).on w with ⟨e | transform, w₁⟩ <;> rw [hload] at htree hlog
  · refine ⟨[], ?_⟩
    rw [on_runDocument, hload]
    exact Leads.nothing hlog htree
  · obtain ⟨es, hes⟩ : Does o (DocumentRule config.dry transform paths)
        (runFiles config.dry transform {} paths) w₁ := runFiles_does {} (fun _ hp => hp) w₁
    refine ⟨[] ++ es, ?_⟩
    rw [on_runDocument, hload]
    refine (Leads.nothing hlog htree).trans (hes.mono ?_)
    intro log t e he
    exact ⟨transform, rfl, he⟩

/-! ## Dispatch -/

theorem on_run (config : RunConfig) (c : Codemod) (paths : List Path) (w : World) :
    (run s config c paths).on w = if s.kinds.contains c.kind then
      (runAs c.kind s config c paths).on w else (.error (.noRunner c.uid c.kind), w) := by
  unfold run runnerFor
  split <;> rfl

end Runner

namespace Project

open Uplift.Action Runner

/-! ## Codemods one after the other -/

section

variable (p : Project) (s : Services) (dry : Bool) (parser : Option String)

/-- What running `codemods` from the world `start` may do. -/
inductive CodemodRule (codemods : List Codemod) (start : World) :
    List Event → Tree → Event → Prop
  /-- The engine is called for a code codemod. -/
  | engine {log : List Event} {t : Tree} {c : Codemod} (hc : c ∈ codemods) (hkind : c.kind = .code) :
      CodemodRule codemods start log t (.engine
        (callFor { dry, cwd := some p.cwd, parser } c (p.filesWith Kind.code.extensions)))
  /-- A scanned document is written, since the codemod that comes after `done` changes it. -/
  | write {log : List Event} {t : Tree} {done : List Codemod} {c : Codemod} {rest : List Codemod}
      {transform : Transform} {path : Path} {text : String}
      (hsplit : codemods = done ++ c :: rest) (hkind : c.kind = .document) (hdry : dry = false)
      (hpath : path ∈ p.filesWith Kind.document.extensions)
      (hload : ((transformOf s c).on ((p.runCodemods s dry parser done).on start).2).1
        = .ok transform)
      (htext : newText t transform path = some (some text)) :
      CodemodRule codemods start log t (.write ⟨path, text⟩)

variable {p s dry parser}

theorem run_does {install : List Event → Path → Tree → Tree} (c : Codemod) (rest : List Codemod)
    (w : World) :
    Does (s.outside install) (CodemodRule p s dry parser (c :: rest) w)
      (Runner.run s { dry, cwd := some p.cwd, parser } c (p.filesWith c.kind.extensions)) w := by
  unfold Runner.run runnerFor
  split
  · refine Does.bind (Does.pure c.kind w) fun kind w' h => ?_
    obtain ⟨rfl, rfl⟩ : c.kind = kind ∧ w = w' := by simpa using h
    simp only [runAs, ne_eq, not_true_eq_false, ↓reduceIte]
    split
    · rename_i hkind
      rw [hkind]
      refine (runCode_does _ c _ w).mono ?_
      rintro log t e rfl
      exact .engine List.mem_cons_self hkind
    · rename_i hkind
      rw [hkind]
      refine (runDocument_does _ c _ w).mono ?_
      rintro log t e ⟨transform, hload, hdry, path, hpath, text, htext, rfl⟩
      exact .write (List.nil_append _).symm hkind hdry hpath hload htext
  · exact Does.bind (Does.throw _ w) fun _ _ h => by simp at h

theorem on_runCodemods_cons_ok {c : Codemod} {report : Report} {w w₁ : World}
    (h : (Runner.run s { dry, cwd := some p.cwd, parser } c (p.filesWith c.kind.extensions)).on w
      = (.ok report, w₁)) (rest : List Codemod) :
    ((p.runCodemods s dry parser (c :: rest)).on w).2
      = ((p.runCodemods s dry parser rest).on w₁).2 := by
  rw [runCodemods, on_bind_ok h, on_bind]
  rcases (p.runCodemods s dry parser rest).on w₁ with ⟨e | reports, w₂⟩ <;> rfl

/-- What the codemods after the first may do is what they may do on their own, started later. -/
theorem CodemodRule.cons {c : Codemod} {report : Report} {w w₁ : World}
    (h : (Runner.run s { dry, cwd := some p.cwd, parser } c (p.filesWith c.kind.extensions)).on w
      = (.ok report, w₁)) {rest : List Codemod} {log : List Event} {t : Tree} {e : Event}
    (he : CodemodRule p s dry parser rest w₁ log t e) :
    CodemodRule p s dry parser (c :: rest) w log t e := by
  cases he with
  | engine hc hkind => exact .engine (List.mem_cons_of_mem c hc) hkind
  | @write done d more _ _ _ hsplit hkind hdry hpath hload htext =>
    have hsplit' : c :: rest = (c :: done) ++ d :: more := by rw [hsplit]; rfl
    refine .write hsplit' hkind hdry hpath ?_ htext
    rw [on_runCodemods_cons_ok h]
    exact hload

/-- **Codemods do nothing but what `CodemodRule` lists**, up to the one that fails. -/
theorem runCodemods_does {install : List Event → Path → Tree → Tree} (codemods : List Codemod)
    (w : World) :
    Does (s.outside install) (CodemodRule p s dry parser codemods w)
      (p.runCodemods s dry parser codemods) w := by
  induction codemods generalizing w with
  | nil => exact Does.pure [] w
  | cons c rest ih =>
    rw [runCodemods]
    refine Does.bind (run_does c rest w) fun report w₁ hrun => ?_
    refine Does.bind ((ih w₁).mono fun log t e he => he.cons hrun) fun reports w₂ _ => ?_
    exact Does.pure _ w₂

theorem runCodemods_codemods {codemods : List Codemod} {reports : List CodemodReport} {w w₁ : World}
    (h : (p.runCodemods s dry parser codemods).on w = (.ok reports, w₁)) :
    reports.map (·.codemod) = codemods := by
  induction codemods generalizing reports w w₁ with
  | nil =>
    obtain ⟨rfl, -⟩ : [] = reports ∧ w = w₁ := by simpa [runCodemods] using h
    rfl
  | cons c rest ih =>
    rw [runCodemods, on_bind] at h
    split at h
    · rename_i report w₂ _
      rw [on_bind] at h
      split at h
      · rename_i tail w₃ hrest
        obtain ⟨rfl, -⟩ : _ = reports ∧ w₃ = w₁ := by simpa using h
        simp [ih hrest]
      · simp at h
    · simp at h

end

end Project

end Uplift
