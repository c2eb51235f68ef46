import Mathlib.Data.List.Pairwise
import Uplift.Proofs.Runner.Cache
import Uplift.Proofs.Tree.Overwrite

set_option autoImplicit false

/-! # Documents one by one

What a document codemod makes of a file is settled by its transform, the path and the text of the file
(`fate`). A run on many files goes through them one after the other and writes on the way, so that a
file might be read after it was written. If no two of the paths lead to the same file, this does not
happen: each file fares as it would alone, by its text from before the run (`on_runFiles`). The order of
the paths then does not matter, neither for the counts nor for the files (`runDocument_independent`).

Different paths may well lead to the same file, as `/a.json` and `/d/../a.json` do. The second of them
is then given what the first has made of the file (`runDocument_aliased`). -/

namespace Uplift.Runner

open Uplift.Action

/-! ## One file -/

/-- What becomes of a file: it gets another text, it is left alone, or it is at fault. -/
inductive Fate where
  | changed (text : String)
  | unchanged
  | failed
  deriving DecidableEq, Repr

/-- How a fate is counted. -/
def Fate.outcome : Fate → FileOutcome
  | .changed _ => .changed
  | .unchanged => .unchanged
  | .failed => .failed

/-- What becomes of the file at a path that holds a text, or none. It fails without a transform, without
    a text, if the text is no JSON, and if the transform is at fault or yields no document. -/
def fate (loaded : Except TransformError Transform) (path : Path) (text : Option String) : Fate :=
  match loaded, text.bind Json.read? with
  | .ok transform, some doc =>
    match transform path doc with
    | .ok (some new) => if new.same doc then .unchanged else .changed new.fileText
    | _ => .failed
  | _, _ => .failed

theorem fate_error (e : TransformError) (path : Path) (text : Option String) :
    fate (.error e) path text = .failed := rfl

theorem newText_eq (t : Tree) (transform : Transform) (path : Path) :
    newText t transform path = match fate (.ok transform) path (t.readText path) with
      | .changed text => some (some text)
      | .unchanged => some none
      | .failed => none := by
  unfold newText fate
  cases t.readText path with
  | none => rfl
  | some text =>
    simp only [Option.bind_eq_bind, Option.bind_some]
    cases Json.read? text with
    | none => rfl
    | some doc =>
      simp only [Option.bind_some]
      rcases transform path doc with e | (_ | new)
      · rfl
      · rfl
      · cases hsame : new.same doc <;> simp [hsame]

theorem exists_of_changed {loaded : Except TransformError Transform} {t : Tree} {path : Path}
    {text : String} (h : fate loaded path (t.readText path) = .changed text) :
    ∃ place old, t.place? path = some place ∧ t.content? place = some old := by
  cases hread : t.readText path with
  | none =>
    rw [hread] at h
    cases loaded <;> cases h
  | some s =>
    obtain ⟨place, hplace, hcontent⟩ := Tree.exists_of_readText hread
    exact ⟨place, .text s, hplace, hcontent⟩

/-- The place and the text that are written for a path, if any. -/
def edit? (loaded : Except TransformError Transform) (t : Tree) (path : Path) :
    Option (List String × Content) :=
  match fate loaded path (t.readText path), t.place? path with
  | .changed text, some place => some (place, .text text)
  | _, _ => none

theorem edit?_eq_some_iff {loaded : Except TransformError Transform} {t : Tree} {path : Path}
    {e : List String × Content} : edit? loaded t path = some e ↔
      ∃ text, fate loaded path (t.readText path) = .changed text ∧ t.place? path = some e.1 ∧
        e.2 = .text text := by
  obtain ⟨place, c⟩ := e
  unfold edit?
  rcases fate loaded path (t.readText path) with text | _ | _
  · cases t.place? path with
    | none => simp
    | some own =>
      simp only [Option.some.injEq, Prod.mk.injEq, Fate.changed.injEq, exists_eq_left']
      exact ⟨fun h => ⟨h.1, h.2.symm⟩, fun h => ⟨h.1, h.2.symm⟩⟩
  · simp
  · simp

theorem edit?_error (e : TransformError) (t : Tree) (path : Path) : edit? (.error e) t path = none := by
  unfold edit?
  rw [fate_error]

/-- What is written for some paths; nothing in a dry run. -/
def edits (dry : Bool) (loaded : Except TransformError Transform) (t : Tree) (paths : List Path) :
    List (List String × Content) :=
  if dry then [] else paths.filterMap (edit? loaded t)

/-- One file fares by its text, and is overwritten if that changes. -/
theorem on_runFile (dry : Bool) (transform : Transform) (path : Path) (w : World) :
    ∃ w', (runFile dry transform path).on w
        = (.ok (fate (.ok transform) path (w.tree.readText path)).outcome, w') ∧
      w'.tree = w.tree.overwriteAll (edits dry (.ok transform) w.tree [path]) := by
  unfold runFile
  rw [on_bind_ok (on_get w), newText_eq]
  cases hfate : fate (.ok transform) path (w.tree.readText path) with
  | failed => exact ⟨w, rfl, by cases dry <;> simp [edits, edit?, hfate]⟩
  | unchanged => exact ⟨w, rfl, by cases dry <;> simp [edits, edit?, hfate]⟩
  | changed text =>
    cases dry with
    | true => exact ⟨w, rfl, rfl⟩
    | false =>
      obtain ⟨place, old, hplace, hold⟩ := exists_of_changed hfate
      have hwrite := Tree.write_of_content? (.text text) hplace hold
      rcases on_write (ε := TransformError) path text w with ⟨tree, htree, hon⟩ | ⟨hnone, -⟩
      · obtain rfl : w.tree.overwrite place (.text text) = tree :=
          Option.some.inj (hwrite.symm.trans htree)
        refine ⟨{ w with
          tree := w.tree.overwrite place (.text text), log := w.log ++ [.write ⟨path, text⟩] }, ?_, ?_⟩
        · simp only [Bool.false_eq_true, ↓reduceIte]
          rw [on_bind_ok hon]
          rfl
        · simp [edits, edit?, hfate, hplace]
      · rw [hwrite] at hnone
        cases hnone

/-! ## Counting -/

/-- The report of a run in which files came to these outcomes. -/
def counted (outcomes : List FileOutcome) : Report where
  ok := outcomes.count .changed
  nochange := outcomes.count .unchanged
  error := outcomes.count .failed

theorem foldl_tally (outcomes : List FileOutcome) (r : Report) :
    outcomes.foldl tally r = { r with
      ok := r.ok + outcomes.count .changed
      nochange := r.nochange + outcomes.count .unchanged
      error := r.error + outcomes.count .failed } := by
  induction outcomes generalizing r with
  | nil => rfl
  | cons o rest ih =>
    rw [List.foldl_cons, ih]
    cases o <;> simp [tally] <;> omega

theorem foldl_tally_nothing (outcomes : List FileOutcome) :
    outcomes.foldl tally {} = counted outcomes := by
  rw [foldl_tally]
  simp [counted]

theorem counted_total (outcomes : List FileOutcome) :
    (counted outcomes).ok + (counted outcomes).nochange + (counted outcomes).error
      = outcomes.length := by
  simp only [counted]
  induction outcomes with
  | nil => rfl
  | cons o rest ih => cases o <;> simp <;> omega

/-! ## Many files -/

/-- A run on files comes to an end, with one outcome for each path. -/
theorem runFiles_counts (dry : Bool) (transform : Transform) (r : Report) (paths : List Path)
    (w : World) : ∃ (outcomes : List FileOutcome) (w' : World), (runFiles dry transform r paths).on w
        = (.ok (outcomes.foldl tally r), w') ∧ outcomes.length = paths.length := by
  induction paths generalizing r w with
  | nil => exact ⟨[], w, rfl, rfl⟩
  | cons path rest ih =>
    obtain ⟨w₁, hfile, -⟩ := on_runFile dry transform path w
    generalize (fate (.ok transform) path (w.tree.readText path)).outcome = outcome at hfile
    obtain ⟨outcomes, w', hrest, hlength⟩ := ih (tally r outcome) w₁
    refine ⟨outcome :: outcomes, w', ?_, by rw [List.length_cons, List.length_cons, hlength]⟩
    rw [runFiles, on_bind_ok hfile, hrest, List.foldl_cons]

section

variable {dry : Bool} {loaded : Except TransformError Transform} {t : Tree} {path : Path}

variable (dry loaded t path) in
theorem edits_cons (rest : List Path) :
    edits dry loaded t (path :: rest) = edits dry loaded t [path] ++ edits dry loaded t rest := by
  cases dry with
  | true => rfl
  | false =>
    simp only [edits, Bool.false_eq_true, ↓reduceIte]
    rw [← List.filterMap_append]
    rfl

variable (dry loaded t path) in
theorem edits_singleton : edits dry loaded t [path] = [] ∨
    ∃ place c, t.place? path = some place ∧ edits dry loaded t [path] = [(place, c)] := by
  cases dry with
  | true => exact Or.inl rfl
  | false =>
    simp only [edits, Bool.false_eq_true, ↓reduceIte]
    cases hedit : edit? loaded t path with
    | none => exact Or.inl (by simp [hedit])
    | some e =>
      obtain ⟨text, -, hplace, -⟩ := edit?_eq_some_iff.1 hedit
      exact Or.inr ⟨e.1, e.2, hplace, by simp [hedit]⟩

variable (dry loaded) in
/-- What is written for one path leaves the other files to be written as before. -/
theorem edits_after {rest : List Path} (hne : ∀ q ∈ rest, ¬ t.SameFile path q) :
    edits dry loaded (t.overwriteAll (edits dry loaded t [path])) rest = edits dry loaded t rest ∧
    ∀ q ∈ rest, (t.overwriteAll (edits dry loaded t [path])).readText q = t.readText q := by
  rcases edits_singleton dry loaded t path with
    hnone | ⟨place, c, hplace, hone⟩
  · simp [hnone]
  · rw [hone, Tree.overwriteAll_cons, Tree.overwriteAll_nil]
    have hread : ∀ q ∈ rest, (t.overwrite place c).readText q = t.readText q := fun q hq =>
      Tree.readText_overwrite c hplace (hne q hq)
    refine ⟨?_, hread⟩
    unfold edits
    cases dry with
    | true => rfl
    | false =>
      refine List.filterMap_congr fun q hq => ?_
      unfold edit?
      rw [hread q hq, Tree.place?_overwrite]

variable (dry loaded path) in
theorem pairwise_after {rest : List Path} (h : rest.Pairwise fun p q => ¬ t.SameFile p q) :
    rest.Pairwise fun p q => ¬ (t.overwriteAll (edits dry loaded t [path])).SameFile p q := by
  rcases edits_singleton dry loaded t path with
    hnone | ⟨place, c, -, hone⟩
  · rw [hnone]
    exact h
  · rw [hone]
    exact h.imp fun {p q} hpq hsame => hpq (Tree.sameFile_overwrite.1 hsame)

theorem sameFile_of_changed {q : Path} {text : String} {place : List String}
    (h : fate loaded path (t.readText path) = .changed text) (hp : t.place? path = some place)
    (hq : t.place? q = some place) : t.SameFile path q := by
  obtain ⟨own, old, hown, hold⟩ := exists_of_changed h
  exact ⟨Tree.isFile_iff.2 ⟨own, hown, by rw [hold]; rfl⟩, hp.trans hq.symm⟩

theorem nodup_edits {paths : List Path} (h : paths.Pairwise fun p q => ¬ t.SameFile p q) :
    ((edits dry loaded t paths).map Prod.fst).Nodup := by
  cases dry with
  | true => exact List.nodup_nil
  | false =>
    refine List.pairwise_map.2 (List.pairwise_filterMap.2 (h.imp fun {p q} hpq => ?_))
    intro e he e' he' heq
    obtain ⟨text, hchanged, hp, -⟩ := edit?_eq_some_iff.1 he
    obtain ⟨-, -, hq, -⟩ := edit?_eq_some_iff.1 he'
    rw [← heq] at hq
    exact hpq (sameFile_of_changed hchanged hp hq)

end

/-- Files that are not led to twice fare by their texts from before the run. -/
theorem on_runFiles (dry : Bool) (transform : Transform) (r : Report) {paths : List Path} {w : World}
    (h : paths.Pairwise fun p q => ¬ w.tree.SameFile p q) :
    ∃ w', (runFiles dry transform r paths).on w = (.ok ((paths.map fun p =>
        (fate (.ok transform) p (w.tree.readText p)).outcome).foldl tally r), w') ∧
      w'.tree = w.tree.overwriteAll (edits dry (.ok transform) w.tree paths) := by
  induction paths generalizing r w with
  | nil => exact ⟨w, rfl, by cases dry <;> rfl⟩
  | cons path rest ih =>
    obtain ⟨hne, hrest⟩ := List.pairwise_cons.1 h
    obtain ⟨w₁, hfile, htree⟩ := on_runFile dry transform path w
    -- after the first file, the others are read and written as before
    obtain ⟨hedits, hread⟩ := edits_after dry (.ok transform) hne
    rw [← htree] at hedits hread
    have hrest₁ := pairwise_after dry (.ok transform) path hrest
    rw [← htree] at hrest₁
    obtain ⟨w', hrun, htree'⟩ :=
      ih (tally r (fate (.ok transform) path (w.tree.readText path)).outcome) hrest₁
    refine ⟨w', ?_, ?_⟩
    · have hfates : (rest.map fun p => (fate (.ok transform) p (w₁.tree.readText p)).outcome)
          = rest.map fun p => (fate (.ok transform) p (w.tree.readText p)).outcome :=
        List.map_congr_left fun p hp => by rw [hread p hp]
      rw [runFiles, on_bind_ok hfile, hrun, hfates, List.map_cons, List.foldl_cons]
    · rw [htree', hedits, htree, edits_cons dry _ w.tree path rest, Tree.overwriteAll_append]

/-! ## Document codemods -/

section

variable {s : Services} {config : RunConfig} {c : Codemod} {paths : List Path} {w : World}

/-- The outcome of each file, by its text from before the run. -/
def outcomes (loaded : Except TransformError Transform) (t : Tree) (paths : List Path) :
    List FileOutcome :=
  paths.map fun p => (fate loaded p (t.readText p)).outcome

theorem on_runAs_document (hkind : c.kind = .document) :
    (runAs .document s config c paths).on w = match obtained s w c with
      | .ok transform =>
        (runFiles config.dry transform {} paths).on (w.recache (keep s w c))
      | .error _ => (.ok { error := paths.length }, w.recache (keep s w c)) := by
  have hrun : runAs .document s config c paths = runDocument s config c paths := by
    simp [runAs, hkind]
  rw [hrun, on_runDocument, on_transformOf]
  cases obtained s w c <;> rfl

theorem counted_outcomes_error (e : TransformError) (t : Tree) (paths : List Path) :
    counted (outcomes (.error e) t paths) = { error := paths.length } := by
  have hfailed : outcomes (.error e) t paths = List.replicate paths.length .failed := by
    simp [outcomes, fate_error, Fate.outcome, List.map_const']
  rw [hfailed]
  simp [counted, List.count_replicate]

theorem on_runFile_idle {dry : Bool} {transform : Transform} {path : Path}
    (h : dry = true ∨ ∀ text, fate (.ok transform) path (w.tree.readText path) ≠ .changed text) :
    (runFile dry transform path).on w
      = (.ok (fate (.ok transform) path (w.tree.readText path)).outcome, w) := by
  unfold runFile
  rw [on_bind_ok (on_get w), newText_eq]
  cases hfate : fate (.ok transform) path (w.tree.readText path) with
  | failed => rfl
  | unchanged => rfl
  | changed text =>
    rcases h with rfl | h
    · rfl
    · exact absurd hfate (h text)

theorem on_runFiles_idle {dry : Bool} {transform : Transform} (r : Report)
    (h : dry = true ∨ ∀ path ∈ paths, ∀ text,
      fate (.ok transform) path (w.tree.readText path) ≠ .changed text) :
    (runFiles dry transform r paths).on w
      = (.ok ((outcomes (.ok transform) w.tree paths).foldl tally r), w) := by
  induction paths generalizing r with
  | nil => rfl
  | cons path rest ih =>
    rw [runFiles, on_bind_ok (on_runFile_idle (h.imp_right fun h => h path List.mem_cons_self)),
      ih _ (h.imp_right fun h q hq => h q (List.mem_cons_of_mem path hq))]
    rfl

variable (s) in
/-- A document codemod that writes nothing does nothing but load its transform. -/
theorem runAs_document_idle (hkind : c.kind = .document)
    (h : config.dry = true ∨ ∀ path ∈ paths, ∀ text,
      fate (obtained s w c) path (w.tree.readText path) ≠ .changed text) :
    (runAs .document s config c paths).on w
      = (.ok (counted (outcomes (obtained s w c) w.tree paths)), w.recache (keep s w c)) := by
  rw [on_runAs_document hkind]
  cases hload : obtained s w c with
  | error e => rw [counted_outcomes_error]
  | ok transform =>
    rw [hload] at h
    have hidle : (runFiles config.dry transform {} paths).on (w.recache (keep s w c)) = _ :=
      on_runFiles_idle {} h
    rw [foldl_tally_nothing] at hidle
    exact hidle

theorem ok_counted_eq_zero_iff {loaded : Except TransformError Transform} {t : Tree} :
    (counted (outcomes loaded t paths)).ok = 0 ↔
      ∀ path ∈ paths, ∀ text, fate loaded path (t.readText path) ≠ .changed text := by
  have hchanged : ∀ f : Fate, f.outcome = .changed ↔ ∃ text, f = .changed text := by
    intro f
    cases f <;> simp [Fate.outcome]
  simp [counted, outcomes, List.count_eq_zero, hchanged]

variable (s config paths w) in
/-- A document codemod always gives a report, which counts each path once. -/
theorem runAs_document_counts (hkind : c.kind = .document) : ∃ report w',
    (runAs .document s config c paths).on w = (.ok report, w') ∧ report.skip = 0 ∧
      report.ok + report.nochange + report.error = paths.length := by
  rw [on_runAs_document hkind]
  cases obtained s w c with
  | error e => exact ⟨_, _, rfl, rfl, by simp⟩
  | ok transform =>
    obtain ⟨found, w', hrun, hlength⟩ :=
      runFiles_counts config.dry transform {} paths (w.recache (keep s w c))
    rw [foldl_tally_nothing] at hrun
    exact ⟨_, w', hrun, rfl, (counted_total found).trans hlength⟩

variable (s config) in
/-- What a document codemod reports and writes, if no two paths lead to the same file. -/
theorem runAs_document_eq (hkind : c.kind = .document)
    (h : paths.Pairwise fun p q => ¬ w.tree.SameFile p q) : ∃ w',
    (runAs .document s config c paths).on w
      = (.ok (counted (outcomes (obtained s w c) w.tree paths)), w') ∧
    w'.tree = w.tree.overwriteAll (edits config.dry (obtained s w c) w.tree paths) := by
  rw [on_runAs_document hkind]
  cases obtained s w c with
  | error e =>
    refine ⟨w.recache (keep s w c), by rw [counted_outcomes_error], ?_⟩
    cases hdry : config.dry <;> simp [edits, edit?_error, List.filterMap_none]
  | ok transform =>
    have h' : paths.Pairwise fun p q => ¬ (w.recache (keep s w c)).tree.SameFile p q := h
    obtain ⟨w', hrun, htree⟩ := on_runFiles config.dry transform {} h'
    rw [foldl_tally_nothing] at hrun
    exact ⟨w', hrun, htree⟩

end

/-! ## What is left of the files -/

section

variable {dry : Bool} {loaded : Except TransformError Transform} {t : Tree} {paths : List Path}

instance (t : Tree) : Std.Symm fun p q => ¬ t.SameFile p q where
  symm _ _ hpq hqp := hpq hqp.symm

theorem readText_of_changed (h : paths.Pairwise fun p q => ¬ t.SameFile p q) {p : Path}
    (hp : p ∈ paths) {text : String} (hfate : fate loaded p (t.readText p) = .changed text) :
    (t.overwriteAll (edits false loaded t paths)).readText p = some text := by
  obtain ⟨place, old, hplace, hold⟩ := exists_of_changed hfate
  have hmem : (place, .text text) ∈ edits false loaded t paths :=
    List.mem_filterMap.2 ⟨p, hp, edit?_eq_some_iff.2 ⟨text, hfate, hplace, rfl⟩⟩
  have hplace' : (t.overwriteAll (edits false loaded t paths)).place? p = some place :=
    (Tree.place?_congr (fun _ => Tree.hasDir_overwriteAll _) p).trans hplace
  rw [Tree.readText_of_place? hplace', Tree.content?_overwriteAll_of_mem (nodup_edits h) hmem hold]

/-- What is at a place stays, unless it is the place of a file that changes. -/
theorem entryAt_of_not_changed {place : List String} (h : ∀ p ∈ paths, t.place? p = some place →
      ∀ text, fate loaded p (t.readText p) ≠ .changed text) :
    (t.overwriteAll (edits dry loaded t paths)).entryAt place = t.entryAt place := by
  refine Tree.entryAt_overwriteAll_of_notMem fun hmem => ?_
  obtain ⟨e, he, rfl⟩ := List.mem_map.1 hmem
  cases dry with
  | true => cases he
  | false =>
    obtain ⟨p, hp, hedit⟩ := List.mem_filterMap.1 he
    obtain ⟨text, hfate, hplace, -⟩ := edit?_eq_some_iff.1 hedit
    exact h p hp hplace text hfate

variable (dry loaded) in
/-- The order of the paths shows neither in the counts nor in the files. -/
theorem perm_invariant {paths' : List Path} (hperm : paths.Perm paths')
    (h : paths.Pairwise fun p q => ¬ t.SameFile p q) :
    counted (outcomes loaded t paths') = counted (outcomes loaded t paths) ∧
    t.overwriteAll (edits dry loaded t paths') = t.overwriteAll (edits dry loaded t paths) := by
  constructor
  · have hcount : ∀ o, (outcomes loaded t paths').count o = (outcomes loaded t paths).count o :=
      fun o => ((hperm.map _).count_eq o).symm
    simp only [counted, hcount]
  · have hedits : (edits dry loaded t paths).Perm (edits dry loaded t paths') := by
      cases dry with
      | true => exact List.Perm.refl _
      | false => exact hperm.filterMap _
    exact (Tree.overwriteAll_perm hedits (nodup_edits h)).symm

end

/-- **Documents fare each by itself.** A document codemod always gives a report, in which every path is
    counted once and none is skipped. If no two of the paths lead to the same file, then each path is
    counted by what becomes of the text that its file had before the run. Unless the run is dry, a file
    that changes ends with its new text. All other files stay as they were, whether they are among the
    paths or not, and so do all files in a dry run. With the paths in another order, the report and the
    files are the same. -/
theorem runDocument_independent (s : Services) (config : RunConfig) {c : Codemod} (paths : List Path)
    (w : World) (hkind : c.kind = .document) :
    ∃ report w', (runAs .document s config c paths).on w = (.ok report, w') ∧
      report.skip = 0 ∧ report.ok + report.nochange + report.error = paths.length ∧
      ((paths.Pairwise fun p q => ¬ w.tree.SameFile p q) →
        let fateOf := fun p => fate (obtained s w c) p (w.tree.readText p)
        report = counted (paths.map fun p => (fateOf p).outcome) ∧
        (config.dry = false → ∀ p ∈ paths, ∀ text, fateOf p = .changed text →
          w'.tree.readText p = some text) ∧
        (∀ p ∈ paths, (∀ text, fateOf p ≠ .changed text) → ∀ place, w.tree.place? p = some place →
          w'.tree.entryAt place = w.tree.entryAt place) ∧
        (∀ place, (∀ p ∈ paths, w.tree.place? p ≠ some place) →
          w'.tree.entryAt place = w.tree.entryAt place) ∧
        (config.dry = true → w'.tree = w.tree) ∧
        (∀ paths', paths.Perm paths' → ∃ w'',
          (runAs .document s config c paths').on w = (.ok report, w'') ∧ w''.tree = w'.tree)) := by
  obtain ⟨report, w', hrun, hskip, htotal⟩ :=
    runAs_document_counts s config paths w hkind
  refine ⟨report, w', hrun, hskip, htotal, fun hapart => ?_⟩
  obtain ⟨w₁, hrun₁, htree⟩ :=
    runAs_document_eq s config hkind hapart
  obtain ⟨rfl, rfl⟩ : report = counted (outcomes (obtained s w c) w.tree paths) ∧ w' = w₁ := by
    rw [hrun] at hrun₁
    simpa using hrun₁
  refine ⟨rfl, ?_, ?_, ?_, ?_, ?_⟩
  · intro hdry p hp text hfate
    rw [htree, hdry]
    exact readText_of_changed hapart hp hfate
  · intro p hp hkeep place hplace
    rw [htree]
    refine entryAt_of_not_changed fun q hq hqplace text hfate => ?_
    -- a path that leads here and changes is another one, and so leads to another file
    have hne : q ≠ p := fun heq => hkeep text (heq ▸ hfate)
    exact hapart.forall hq hp hne (sameFile_of_changed hfate hqplace hplace)
  · intro place hnone
    rw [htree]
    exact entryAt_of_not_changed fun p hp hplace => absurd hplace (hnone p hp)
  · intro hdry
    rw [htree, hdry]
    rfl
  · intro paths' hperm
    have hapart' : paths'.Pairwise fun p q => ¬ w.tree.SameFile p q :=
      (hperm.pairwise_iff fun hpq hqp => hpq hqp.symm).1 hapart
    obtain ⟨hcounts, hfiles⟩ := perm_invariant config.dry (obtained s w c) hperm hapart
    obtain ⟨w'', hrun'', htree''⟩ := runAs_document_eq s config hkind hapart'
    rw [hcounts] at hrun''
    exact ⟨w'', hrun'', by rw [htree'', hfiles, htree]⟩

/-- A document without the member `n`, one that has it, a text that is no JSON, bytes that are no text,
    and an empty directory. -/
def documents : Tree :=
  .dir [("a.json", .file (.text "\x7b\x7d")), ("b.json", .file (.text "\x7b\"n\":1\x7d")),
    ("bad.json", .file (.text "\x7b n")), ("raw.json", .file (.raw [255])), ("d", .dir [])]

/-- A transform is registered that sets the member `n` of an object. -/
def stamping : Services where
  engine := .none
  transforms := [("p", fun _ d => match d with
    | .obj fields => .ok (some (.obj (Fields.put fields "n" (.int 1))))
    | _ => .ok none)]

/-- Of five files one is changed and one is fine already; the others fail, the last for not being
    there. -/
theorem runDocument_independent_five :
    let c := Repository.patchFor "p.document.json"
    let w : World := { tree := documents }
    let paths : List Path :=
      [⟨"/a.json"⟩, ⟨"/b.json"⟩, ⟨"/bad.json"⟩, ⟨"/raw.json"⟩, ⟨"/none.json"⟩]
    c.kind = .document ∧ (paths.Pairwise fun p q => ¬ w.tree.SameFile p q) ∧
      ∃ w', (runAs .document stamping {} c paths).on w
          = (.ok { ok := 1, nochange := 1, error := 3 }, w') ∧
        w'.tree.readText ⟨"/a.json"⟩ = some "\x7b\n  \"n\": 1\n\x7d\n" ∧
        (∀ place, w.tree.place? ⟨"/b.json"⟩ = some place →
          w'.tree.entryAt place = w.tree.entryAt place) ∧
        ∃ w'', (runAs .document stamping {} c paths.reverse).on w
            = (.ok { ok := 1, nochange := 1, error := 3 }, w'') ∧ w''.tree = w'.tree := by
  intro c w paths
  have hkind : c.kind = .document := by decide
  have hapart : paths.Pairwise fun p q => ¬ w.tree.SameFile p q := by decide +kernel
  obtain ⟨report, w', hrun, -, -, hfates⟩ := runDocument_independent stamping {} paths w hkind
  obtain ⟨hreport, hchanged, hkept, -, -, hperm⟩ := hfates hapart
  obtain rfl : report = { ok := 1, nochange := 1, error := 3 } := hreport.trans (by decide +kernel)
  refine ⟨hkind, hapart, w', hrun, hchanged rfl _ (by decide) _ (by decide +kernel), ?_,
    hperm _ paths.reverse_perm.symm⟩
  have hfate : fate (obtained stamping w c) ⟨"/b.json"⟩ (w.tree.readText ⟨"/b.json"⟩) = .unchanged := by
    decide +kernel
  exact hkept _ (by decide) fun text hchange => by cases hfate.symm.trans hchange

/-- Two different paths that lead to the same file. By the text from before the run both would change
    it, but the second one finds what the first has written, and there is nothing left to do. -/
theorem runDocument_aliased :
    let c := Repository.patchFor "p.document.json"
    let w : World := { tree := documents }
    let paths : List Path := [⟨"/a.json"⟩, ⟨"/d/../a.json"⟩]
    (paths.Pairwise fun p q => p.same q = false) ∧
      (∀ p ∈ paths, fate (obtained stamping w c) p (w.tree.readText p)
        = .changed "\x7b\n  \"n\": 1\n\x7d\n") ∧
      ((runAs .document stamping {} c paths).on w).1.toOption = some { ok := 1, nochange := 1 } := by
  intro c w paths
  exact ⟨by decide +kernel, by decide +kernel, by decide +kernel⟩

end Uplift.Runner
