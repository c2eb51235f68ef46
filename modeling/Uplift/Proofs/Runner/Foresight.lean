import Uplift.Proofs.Project.Session
import Uplift.Proofs.Runner.Batch

set_option autoImplicit false

/-! # What a dry run foresees

A dry run and a wet run of the same codemods go through them in step. As long as nothing has been
written, both read the same documents and patches, and the engine is asked the same questions; so
what becomes of the next codemod is the same in both (`run_matched`). A document codemod that changes a
file is still foreseen, since each file fares by its text from before the codemod; only what comes after
it may be another matter (`attempts_foresee`).

This needs an engine that leaves alone whatever document codemods read. The patches count among that: a
wet engine may finish a patch that was a draft when the dry run looked at it (`dry_run_of_draft`). -/

namespace Uplift

/-! ## What does not count -/

/-- A report without its time. -/
def Report.untimed (r : Report) : Report := { r with elapsed := .zero }

/-- An answer without its time. -/
def EngineReply.untimed : EngineReply → EngineReply
  | .report r => .report r.untimed
  | .fault f => .fault f
  | .overflow => .overflow

/-- A call as of a wet run. -/
def EngineCall.undry (call : EngineCall) : EngineCall := { call with dry := false }

/-- An event as of a wet run. -/
def Event.undry : Event → Event
  | .engine call => .engine call.undry
  | e => e

/-! ## Engines -/

/-- The answers of an engine, apart from their times, depend neither on the files nor on dry flags, those
    of earlier calls included. -/
def Engine.Oblivious (engine : Engine) : Prop :=
  ∀ log log' call call' t t', log.map Event.undry = log'.map Event.undry →
    call.undry = call'.undry → (engine log call t).1.untimed = (engine log' call' t').1.untimed

/-- An engine leaves alone what can be read at these paths. -/
def Engine.Spares (engine : Engine) (paths : List Path) : Prop :=
  ∀ log call t, ∀ q ∈ paths, (engine log call t).2.readText q = t.readText q

/-! ## Two runs in step -/

/-- Two worlds look the same to the next codemod of a run that reads these paths. -/
structure World.Matched (reads : List Path) (v w : World) : Prop where
  texts : ∀ q ∈ reads, v.tree.readText q = w.tree.readText q
  cache : v.cache = w.cache
  log : v.log.map Event.undry = w.log.map Event.undry

theorem World.Matched.refl (reads : List Path) (w : World) : w.Matched reads w :=
  ⟨fun _ _ => rfl, rfl, rfl⟩

namespace Runner

open Uplift.Action

variable {s : Services} {reads : List Path} {v w : World} {config : RunConfig} {c : Codemod}
  {paths : List Path}

/-! ### Code -/

/-- What an answer of the engine comes to. -/
def outcomeOf (uid : String) : EngineReply → Except TransformError Report
  | .report r => .ok r
  | .fault f => .error (.engine uid f)
  | .overflow => .error (.overflow uid)

theorem outcomeOf_untimed (uid : String) (reply : EngineReply) :
    (outcomeOf uid reply).map Report.untimed = outcomeOf uid reply.untimed := by
  cases reply <;> rfl

theorem on_runCode_eq (config : RunConfig) (c : Codemod) (hp : paths.isEmpty = false) (w : World) :
    (runCode s config c paths).on w
      = (outcomeOf c.uid (s.engine w.log (callFor config c paths) w.tree).1, { w with
        tree := (s.engine w.log (callFor config c paths) w.tree).2,
        log := w.log ++ [.engine (callFor config c paths)] }) := by
  refine Prod.ext ?_ (on_runCode config c hp w)
  unfold runCode
  simp only [hp, Bool.false_eq_true, ↓reduceIte]
  rw [on_bind_ok (on_get w), on_bind_ok (on_set _ _), on_bind_ok (on_record _ _)]
  split <;> rename_i hreply <;> exact (congrArg (outcomeOf c.uid) hreply).symm

/-- The engine is asked the same in both runs, and answers the same. -/
theorem runCode_matched (hanswers : s.engine.Oblivious) (hspares : s.engine.Spares reads)
    (h : v.Matched reads w) (config : RunConfig) (c : Codemod) (paths : List Path) :
    let dry := (runCode s { config with dry := true } c paths).on v
    let wet := (runCode s { config with dry := false } c paths).on w
    dry.1.map Report.untimed = wet.1.map Report.untimed ∧ dry.2.Matched reads wet.2 := by
  cases hp : paths.isEmpty with
  | true =>
    simp only [runCode, hp, ↓reduceIte]
    exact ⟨rfl, h⟩
  | false =>
    have hcall : (callFor { config with dry := true } c paths).undry
        = (callFor { config with dry := false } c paths).undry := rfl
    simp only [on_runCode_eq _ c hp]
    refine ⟨?_, ?_, h.cache, ?_⟩
    · rw [outcomeOf_untimed, outcomeOf_untimed, hanswers _ _ _ _ v.tree w.tree h.log hcall]
    · intro q hq
      exact (hspares _ _ _ q hq).trans ((h.texts q hq).trans (hspares _ _ _ q hq).symm)
    · rw [List.map_append, List.map_append, h.log]
      rfl

/-! ### Documents -/

theorem obtained_matched (h : v.Matched reads w) (hc : c.path ∈ reads) :
    obtained s v c = obtained s w c ∧ keep s v c = keep s w c := by
  have hload : Transform.load s.transforms v.tree c = Transform.load s.transforms w.tree c :=
    Transform.load_congr (h.texts c.path hc)
  simp only [obtained, keep, h.cache, hload, and_self]

/-- The documents fare the same in both runs. If none of them changes, both runs go on from the same. -/
theorem runDocument_matched (hkind : c.kind = .document) (hc : c.path ∈ reads)
    (hpaths : ∀ q ∈ paths, q ∈ reads) (hapart : paths.Pairwise fun p q => ¬ w.tree.SameFile p q)
    (h : v.Matched reads w) (config : RunConfig) :
    let dry := (runAs .document s { config with dry := true } c paths).on v
    let wet := (runAs .document s { config with dry := false } c paths).on w
    ∃ report, dry.1 = .ok report ∧ wet.1 = .ok report ∧ (report.ok = 0 → dry.2.Matched reads wet.2) := by
  intro dry wet
  obtain ⟨hobtained, hkeep⟩ := obtained_matched (s := s) h hc
  have houtcomes : outcomes (obtained s v c) v.tree paths = outcomes (obtained s w c) w.tree paths := by
    rw [hobtained]
    exact List.map_congr_left fun q hq => by rw [h.texts q (hpaths q hq)]
  have hdry : dry = (.ok (counted (outcomes (obtained s w c) w.tree paths)), v.recache (keep s w c)) := by
    rw [← houtcomes, ← hkeep]
    exact runAs_document_idle s hkind (Or.inl rfl)
  obtain ⟨w', hwet, -⟩ := runAs_document_eq s { config with dry := false } hkind hapart
  have hwet : wet = _ := hwet
  refine ⟨_, by rw [hdry], by rw [hwet], fun hnone => ?_⟩
  have hidle : wet = (_, w.recache (keep s w c)) :=
    runAs_document_idle s hkind (Or.inr (ok_counted_eq_zero_iff.1 hnone))
  rw [hdry, hidle]
  exact ⟨h.texts, rfl, h.log⟩

/-! ### One codemod -/

/-- A codemod that was run, and what came of it. -/
structure Attempt where
  codemod : Codemod
  outcome : Except TransformError Report

namespace Attempt

/-- An attempt without its time. -/
def untimed (a : Attempt) : Attempt := { a with outcome := a.outcome.map Report.untimed }

/-- The report of an attempt. -/
def report (a : Attempt) : Except TransformError CodemodReport := a.outcome.map (⟨a.codemod, ·⟩)

/-- A document codemod has changed a file. -/
def Changes (a : Attempt) : Prop := a.codemod.kind = .document ∧ ∃ r, a.outcome = .ok r ∧ 0 < r.ok

end Attempt

/-- **What becomes of a codemod is the same in both runs**, and unless it changes a document, both go on
    from the same. -/
theorem run_matched (hanswers : s.engine.Oblivious) (hspares : s.engine.Spares reads)
    (hreads : c.kind = .document → c.path ∈ reads ∧ ∀ q ∈ paths, q ∈ reads)
    (hapart : paths.Pairwise fun p q => ¬ w.tree.SameFile p q) (h : v.Matched reads w)
    (config : RunConfig) :
    let dry := (run s { config with dry := true } c paths).on v
    let wet := (run s { config with dry := false } c paths).on w
    Attempt.untimed ⟨c, dry.1⟩ = Attempt.untimed ⟨c, wet.1⟩ ∧
      (¬ Attempt.Changes ⟨c, wet.1⟩ → dry.2.Matched reads wet.2) := by
  simp only [on_run, Attempt.untimed, Attempt.mk.injEq, true_and]
  by_cases hkinds : s.kinds.contains c.kind = true
  · simp only [hkinds, ↓reduceIte]
    cases hkind : c.kind with
    | code =>
      have hrun : ∀ config, runAs .code s config c paths = runCode s config c paths := by
        simp [runAs, hkind]
      obtain ⟨houtcome, hmatched⟩ := runCode_matched hanswers hspares h config c paths
      simp only [hrun]
      exact ⟨houtcome, fun _ => hmatched⟩
    | document =>
      obtain ⟨hc, hpaths⟩ := hreads hkind
      obtain ⟨report, hdry, hwet, hnone⟩ := runDocument_matched hkind hc hpaths hapart h config
      refine ⟨by rw [hdry, hwet], fun hsame => hnone ?_⟩
      exact Nat.eq_zero_of_not_pos fun hpos => hsame ⟨hkind, report, hwet, hpos⟩
  · simp only [hkinds]
    exact ⟨rfl, fun _ => h⟩

end Runner

namespace Project

/-! ## Many codemods -/

/-- What becomes of the codemods of a run, up to the first that fails. -/
def attempts (p : Project) (s : Services) (dry : Bool) (parser : Option String) :
    List Codemod → World → List Runner.Attempt
  | [], _ => []
  | c :: rest, w =>
    let after := (Runner.run s { dry, cwd := some p.cwd, parser } c
      (p.filesWith c.kind.extensions)).on w
    ⟨c, after.1⟩ :: if after.1.isOk then p.attempts s dry parser rest after.2 else []

variable {p : Project} {s : Services} {dry : Bool} {parser : Option String}

open Uplift.Action in
/-- A run reports what became of its codemods, or the first failure. -/
theorem runCodemods_eq (codemods : List Codemod) (w : World) :
    ((p.runCodemods s dry parser codemods).on w).1
      = (p.attempts s dry parser codemods w).mapM Runner.Attempt.report := by
  induction codemods generalizing w with
  | nil => rfl
  | cons c rest ih =>
    rw [runCodemods, attempts, List.mapM_cons]
    rcases hrun : (Runner.run s { dry, cwd := some p.cwd, parser } c
      (p.filesWith c.kind.extensions)).on w with ⟨e | r, w'⟩
    · rw [on_bind_error hrun]
      rfl
    · have hrest := ih w'
      rw [on_bind_ok hrun, on_bind]
      simp only [Except.isOk, Except.toBool, ↓reduceIte, ← hrest]
      rcases (p.runCodemods s dry parser rest).on w' with ⟨e | reports, w''⟩ <;> rfl

/-- One run has foreseen another: they come to the same, up to and including the first attempt that
    changes a document. -/
inductive Foresees : List Runner.Attempt → List Runner.Attempt → Prop
  | done : Foresees [] []
  | change {a b : Runner.Attempt} {as bs : List Runner.Attempt} (hsame : a.untimed = b.untimed)
      (hchange : b.Changes) : Foresees (a :: as) (b :: bs)
  | step {a b : Runner.Attempt} {as bs : List Runner.Attempt} (hsame : a.untimed = b.untimed)
      (hrest : Foresees as bs) : Foresees (a :: as) (b :: bs)

theorem Foresees.take_eq {as bs : List Runner.Attempt} (h : Foresees as bs) {n : Nat}
    (hnone : ∀ b ∈ bs.take n, ¬ b.Changes) :
    (as.take (n + 1)).map Runner.Attempt.untimed = (bs.take (n + 1)).map Runner.Attempt.untimed := by
  induction h generalizing n with
  | done => rfl
  | change hsame hchange =>
    cases n with
    | zero => simp [hsame]
    | succ n => exact absurd hchange (hnone _ (by simp))
  | step hsame _ ih =>
    cases n with
    | zero => simp [hsame]
    | succ n =>
      have hrest := ih (n := n) fun b hb => hnone b (List.mem_cons_of_mem _ hb)
      simp [hsame, hrest]

theorem Foresees.eq {as bs : List Runner.Attempt} (h : Foresees as bs)
    (hnone : ∀ b ∈ bs, ¬ b.Changes) :
    as.map Runner.Attempt.untimed = bs.map Runner.Attempt.untimed := by
  have htake := h.take_eq (n := as.length + bs.length) fun b hb => hnone b (List.mem_of_mem_take hb)
  rwa [List.take_of_length_le (by omega), List.take_of_length_le (by omega)] at htake

theorem isOk_of_untimed {c : Codemod} {x y : Except TransformError Report}
    (h : Runner.Attempt.untimed ⟨c, x⟩ = Runner.Attempt.untimed ⟨c, y⟩) : x.isOk = y.isOk := by
  have houtcome : x.map Report.untimed = y.map Report.untimed := congrArg Runner.Attempt.outcome h
  cases x <;> cases y <;> first | rfl | cases houtcome

/-- **Runs that go on from the same foresee each other.** -/
theorem attempts_foresee {reads : List Path} (hanswers : s.engine.Oblivious)
    (hspares : s.engine.Spares reads) (hfiles : ∀ q ∈ p.filesWith Kind.document.extensions, q ∈ reads)
    (hapart : p.files.Pairwise fun q q' => ∀ t : Tree, ¬ t.SameFile q q') {codemods : List Codemod}
    (hpatches : ∀ c ∈ codemods, c.kind = .document → c.path ∈ reads) {v w : World}
    (h : v.Matched reads w) :
    Foresees (p.attempts s true parser codemods v) (p.attempts s false parser codemods w) := by
  induction codemods generalizing v w with
  | nil => exact .done
  | cons c rest ih =>
    obtain ⟨hpatch, hpatches⟩ := List.forall_mem_cons.1 hpatches
    have hreads : c.kind = .document →
        c.path ∈ reads ∧ ∀ q ∈ p.filesWith c.kind.extensions, q ∈ reads := by
      intro hkind
      rw [hkind]
      exact ⟨hpatch hkind, hfiles⟩
    have hown : (p.filesWith c.kind.extensions).Pairwise fun q q' => ¬ w.tree.SameFile q q' :=
      (hapart.imp fun {q q'} hqq => hqq w.tree).filter _
    obtain ⟨hsame, hnext⟩ :=
      Runner.run_matched hanswers hspares hreads hown h { cwd := some p.cwd, parser }
    rw [attempts, attempts]
    by_cases hchange : Runner.Attempt.Changes ⟨c, ((Runner.run s
        { dry := false, cwd := some p.cwd, parser } c (p.filesWith c.kind.extensions)).on w).1⟩
    · exact .change hsame hchange
    · refine .step hsame ?_
      have hok := isOk_of_untimed hsame
      simp only [hok]
      split
      · exact ih hpatches (hnext hchange)
      · exact .done

/-! ## Projects on a disk -/

/-- The projects that can be at hand when disks are well-formed: loaded from one, and refreshed since
    then. -/
inductive OnDisk : Project → Prop
  | load {t : Tree} {cwd : Path} {f : Framework} {p : Project} (hformed : t.wellFormed = true)
      (hnamed : t.wellNamed = true) (h : load t cwd f = .ok p) : OnDisk p
  | refresh {t : Tree} {p p' : Project} {outcome : Except Error Unit} (hformed : t.wellFormed = true)
      (hnamed : t.wellNamed = true) (hp : OnDisk p) (h : p.refresh t = (outcome, p')) : OnDisk p'

theorem OnDisk.files_apart (h : p.OnDisk) :
    p.files.Pairwise fun q q' => ∀ t : Tree, ¬ t.SameFile q q' := by
  induction h with
  | load hformed hnamed h =>
    obtain ⟨manifest, kind, files, -, -, hfiles, rfl⟩ := load_eq_ok h
    exact Scan.files_apart hformed hnamed (Scan.rooted_policy kind) hfiles
  | @refresh t p p' outcome hformed hnamed _ h ih =>
    rcases refresh_cases p t with ⟨manifest, files, -, hfiles, hrefresh⟩ | ⟨e, -, hrefresh⟩
    · obtain ⟨-, rfl⟩ := Prod.mk.inj (h.symm.trans hrefresh)
      exact Scan.files_apart hformed hnamed (Scan.rooted_policy p.kind) hfiles
    · obtain ⟨-, rfl⟩ := Prod.mk.inj (h.symm.trans hrefresh)
      exact ih

/-- What the document codemods of a run read: the documents of the project, and their patches. -/
def inputs (p : Project) (codemods : List Codemod) : List Path :=
  p.filesWith Kind.document.extensions ++
    (codemods.filter (·.kind = .document)).map Codemod.path

/-- **A dry run foresees the wet run up to the first change.** Let the answers of the engine depend
    neither on dry flags nor on the files, and let it leave alone what document codemods read. Then a
    dry and a wet run from the same world come to the same, codemod by codemod and apart from times,
    as long as no document codemod has changed anything; the first that does is still reported alike.
    If a codemod fails on the way, it fails in both, with the same error. If none changes anything,
    the runs come to the same as a whole. -/
theorem dry_run_foresees (hp : p.OnDisk) (hanswers : s.engine.Oblivious) (codemods : List Codemod)
    (hspares : s.engine.Spares (p.inputs codemods)) (parser : Option String) (w : World) :
    let dry := p.attempts s true parser codemods w
    let wet := p.attempts s false parser codemods w
    ((p.runCodemods s true parser codemods).on w).1 = dry.mapM Runner.Attempt.report ∧
    ((p.runCodemods s false parser codemods).on w).1 = wet.mapM Runner.Attempt.report ∧
    (∀ n, (∀ a ∈ wet.take n, ¬ a.Changes) →
      (dry.take (n + 1)).map Runner.Attempt.untimed = (wet.take (n + 1)).map Runner.Attempt.untimed) ∧
    ((∀ a ∈ wet, ¬ a.Changes) →
      dry.map Runner.Attempt.untimed = wet.map Runner.Attempt.untimed) := by
  intro dry wet
  have hfiles : ∀ q ∈ p.filesWith Kind.document.extensions, q ∈ p.inputs codemods := fun q hq =>
    List.mem_append_left _ hq
  have hpatches : ∀ c ∈ codemods, c.kind = .document → c.path ∈ p.inputs codemods := by
    intro c hc hkind
    refine List.mem_append_right _ (List.mem_map_of_mem (List.mem_filter.2 ⟨hc, ?_⟩))
    exact decide_eq_true hkind
  have hforesees : Foresees dry wet :=
    attempts_foresee hanswers hspares hfiles hp.files_apart hpatches (.refl _ w)
  exact ⟨runCodemods_eq codemods w, runCodemods_eq codemods w, fun n hnone => hforesees.take_eq hnone,
    hforesees.eq⟩

/-- An engine that counts each file as changed and in a wet run, which takes a nanosecond, rewrites
    the file at one place. -/
def rewriting (place : List String) (text : String) : Engine := fun _ call t =>
  if call.dry then (.report { ok := call.paths.length }, t)
  else (.report { ok := call.paths.length, elapsed := ⟨1, by decide⟩ },
    t.overwrite place (.text text))

theorem rewriting_oblivious (place : List String) (text : String) :
    (rewriting place text).Oblivious := by
  have hanswer : ∀ log call t, (rewriting place text log call t).1.untimed
      = .report { ok := call.paths.length } := by
    intro log call t
    unfold rewriting
    split <;> rfl
  intro log log' call call' t t' _ hcall
  have hpaths : call.undry.paths = call'.undry.paths := by rw [hcall]
  rw [hanswer, hanswer, show call.paths = call'.paths from hpaths]

theorem rewriting_entryAt {place other : List String} (hne : other ≠ place) (text : String)
    (log : List Event) (call : EngineCall) (t : Tree) :
    (rewriting place text log call t).2.entryAt other = t.entryAt other := by
  unfold rewriting
  split
  · rfl
  · exact Tree.entryAt_overwrite_of_ne _ hne

theorem rewriting_spares {place : List String} (text : String) {paths : List Path}
    (h : ∀ q ∈ paths, ∀ t : Tree, t.place? q ≠ some place) : (rewriting place text).Spares paths := by
  intro log call t q hq
  unfold rewriting
  split
  · rfl
  · exact Tree.readText_overwrite_of_ne _ (h q hq t)

/-- An application, and codemods for it: a code codemod, a draft that is no patch yet, a patch that marks
    the manifest, and one that looks for the mark. -/
def site : Tree := .dir [
  ("app", .dir [
    ("package.json", .file (.text "\x7b\"dependencies\":\x7b\"core\":\"1.0.0\"\x7d\x7d")),
    ("src", .dir [("a.ts", .file (.text ""))])]),
  ("codemods", .dir [("2.0.0", .dir [
    ("a.code.ts", .file (.text "")),
    ("b.document.yaml", .file (.text "draft")),
    ("c.document.json", .file (.text
      "[\x7b\"op\":\"add\",\"path\":\"/private\",\"value\":true\x7d]")),
    ("d.document.json", .file (.text
      "[\x7b\"op\":\"test\",\"path\":\"/private\",\"value\":true\x7d]"))])])]

theorem onDisk_site {cwd : Path} {f : Framework} {p : Project} (h : load site cwd f = .ok p) :
    p.OnDisk :=
  .load (by decide +kernel) (by decide +kernel) h

/-- The code codemod of the site. -/
def siteCode : Codemod := ⟨.code, .release 2 0 0, ⟨"/codemods/2.0.0"⟩, "a.code.ts"⟩

/-- The counts of attempts: changed, left alone and failed files. -/
def tallies (as : List Runner.Attempt) : List (Option (Nat × Nat × Nat)) :=
  as.map fun a => a.outcome.toOption.map fun r => (r.ok, r.nochange, r.error)

/-- The engine rewrites a source, and the manifest is marked. Up to there the dry run foresees what
    happens; that the mark is found it does not. -/
theorem dry_run_foresees_mark :
    let s : Services := { engine := rewriting ["app", "src", "a.ts"] "new" }
    let codemods :=
      [siteCode, Repository.patchFor "c.document.json", Repository.patchFor "d.document.json"]
    ∃ p, Project.load site ⟨"/app"⟩ ⟨"core"⟩ = .ok p ∧ p.OnDisk ∧ s.engine.Oblivious ∧
      s.engine.Spares (p.inputs codemods) ∧
      (let dry := p.attempts s true none codemods { tree := site }
       let wet := p.attempts s false none codemods { tree := site }
       (dry.take 2).map Runner.Attempt.untimed = (wet.take 2).map Runner.Attempt.untimed ∧
        tallies dry = [some (1, 0, 0), some (1, 0, 0), some (0, 0, 1)] ∧
        tallies wet = [some (1, 0, 0), some (1, 0, 0), some (0, 1, 0)]) := by
  intro s codemods
  have hfacts : (Project.load site ⟨"/app"⟩ ⟨"core"⟩).toOption.any (fun p =>
      decide (p.inputs codemods = [["app", "package.json"], ["codemods", "2.0.0", "c.document.json"],
          ["codemods", "2.0.0", "d.document.json"]].map (Path.below ⟨"/"⟩) ∧
        tallies (p.attempts s true none codemods { tree := site })
          = [some (1, 0, 0), some (1, 0, 0), some (0, 0, 1)] ∧
        tallies (p.attempts s false none codemods { tree := site })
          = [some (1, 0, 0), some (1, 0, 0), some (0, 1, 0)])) = true := by
    decide +kernel
  obtain ⟨p, hp, hfacts⟩ := (Option.any_eq_true _ _).1 hfacts
  obtain ⟨hinputs, hdry, hwet⟩ := of_decide_eq_true hfacts
  have hp := eq_ok_of_toOption hp
  have hdisk := onDisk_site hp
  have hanswers : s.engine.Oblivious := rewriting_oblivious _ _
  have hnames : ∀ names ∈ [["app", "package.json"], ["codemods", "2.0.0", "c.document.json"],
      ["codemods", "2.0.0", "d.document.json"]], (∀ name ∈ names, Tree.isName name = true) ∧
        ¬ names <:+ ["app", "src", "a.ts"] := by
    decide +kernel
  have hspares : s.engine.Spares (p.inputs codemods) := by
    refine rewriting_spares _ fun q hq t => ?_
    rw [hinputs] at hq
    obtain ⟨names, hmem, rfl⟩ := List.mem_map.1 hq
    obtain ⟨hproper, hends⟩ := hnames names hmem
    exact Tree.place?_below_ne hproper hends t _
  obtain ⟨-, -, hforesees, -⟩ := dry_run_foresees hdisk hanswers codemods hspares none { tree := site }
  refine ⟨p, hp, hdisk, hanswers, hspares, hforesees 1 ?_, hdry, hwet⟩
  -- the first codemod is no document codemod
  intro a ha
  rw [attempts, List.take_succ_cons, List.take_zero, List.mem_singleton] at ha
  subst ha
  rintro ⟨hkind, -⟩
  cases hkind

/-- An engine that rewrites a YAML file and no other, hence no JSON file. The dry run finds a draft in
    it and reports a failure; in the wet run it has become a patch, which leaves the manifest alone.
    -/
theorem dry_run_of_draft :
    let place := ["codemods", "2.0.0", "b.document.yaml"]
    let s : Services := { engine := rewriting place "[]" }
    let codemods := [siteCode, Repository.patchFor "b.document.yaml"]
    s.engine.Oblivious ∧
    (∀ log call t other, other ≠ place → (s.engine log call t).2.entryAt other = t.entryAt other) ∧
    ∃ p, Project.load site ⟨"/app"⟩ ⟨"core"⟩ = .ok p ∧ p.OnDisk ∧
      tallies (p.attempts s true none codemods { tree := site }) = [some (1, 0, 0), some (0, 0, 1)] ∧
      tallies (p.attempts s false none codemods { tree := site }) = [some (1, 0, 0), some (0, 1, 0)] := by
  intro place s codemods
  have hfacts : (Project.load site ⟨"/app"⟩ ⟨"core"⟩).toOption.any (fun p =>
      decide (tallies (p.attempts s true none codemods { tree := site })
          = [some (1, 0, 0), some (0, 0, 1)] ∧
        tallies (p.attempts s false none codemods { tree := site })
          = [some (1, 0, 0), some (0, 1, 0)])) = true := by
    decide +kernel
  obtain ⟨p, hp, hfacts⟩ := (Option.any_eq_true _ _).1 hfacts
  have hp := eq_ok_of_toOption hp
  exact ⟨rewriting_oblivious _ _, fun log call t other hne => rewriting_entryAt hne _ log call t,
    p, hp, onDisk_site hp, of_decide_eq_true hfacts⟩

end Project

end Uplift
