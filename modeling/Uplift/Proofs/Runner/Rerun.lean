import Uplift.Proofs.Json.Plain
import Uplift.Proofs.Patch
import Uplift.Proofs.Runner.Batch

set_option autoImplicit false

/-! # Running a document codemod again

A transform is idempotent if it leaves alone what it has made. That does not yet say that a second run
of its codemod has nothing to do: the second run is given what is read back from the files that the first
has written. What is plain and not nested too deep is read back as it was (`Json.read?_fileText`), so the
text of an output is a text that the transform leaves alone (`fate_fileText`).

A run goes from file to file. Each step settles the file that it comes to: from then on that file fares
as it will the second time (`on_runFile_settles`). The invariant is that no file ever fares otherwise than
at first or as settled (`on_runFiles_settles`), and so in the end all are settled, and a second run counts
as unchanged what the first has changed (`rerun_idle`).

Paths that lead to the same file have to be transformed alike. This is so if no two of the paths do, and
if the transform does not look at paths. A transform that tells `/a.json` from `/d/../a.json` might
undo at one path what it does at the other, in every run. And the second run has to apply the same
transform: a new context may load another one, if the first run has written to the codemod's own patch
(`rerun_busy`). -/

namespace Uplift.Runner

open Uplift.Action

/-! ## What is left to do -/

/-- How a file fares once it is settled: what has changed does not change again. -/
def FileOutcome.settled : FileOutcome → FileOutcome
  | .changed => .unchanged
  | o => o

@[simp] theorem settled_settled (o : FileOutcome) : o.settled.settled = o.settled := by
  cases o <;> rfl

/-- Files that are settled are counted as unchanged where they were changed before. -/
theorem counted_settled (os : List FileOutcome) : counted (os.map FileOutcome.settled)
    = { ok := 0, nochange := (counted os).ok + (counted os).nochange, error := (counted os).error } := by
  simp only [counted, Report.mk.injEq]
  induction os with
  | nil => simp
  | cons o os ih =>
    obtain ⟨hok, hnochange, -, herror, -⟩ := ih
    cases o <;> simp [FileOutcome.settled, hok, hnochange, herror] <;> omega

/-- What a transform makes of a document it leaves alone. -/
def Idempotent (transform : Transform) : Prop :=
  ∀ p x y, x.wellFormed = true → transform p x = .ok (some y) →
    ∃ z, transform p y = .ok (some z) ∧ z.same y = true

/-- What a transform makes of the files at some paths has no doubles and is not nested too deep to be
    read. -/
def WritesPlain (transform : Transform) (t : Tree) (paths : List Path) : Prop :=
  ∀ p ∈ paths, ∀ text x y, t.readText p = some text → Json.read? text = some x →
    transform p x = .ok (some y) → y.isPlain = true ∧ y.depth ≤ 127

/-- A codemod's transform can be run twice on the files at some paths. -/
structure Repeatable (transform : Transform) (t : Tree) (paths : List Path) : Prop where
  idempotent : Idempotent transform
  plain : WritesPlain transform t paths
  /-- It does not tell paths apart that lead to the same file. -/
  alike : ∀ p ∈ paths, ∀ q ∈ paths, t.SameFile p q → transform p = transform q

/-- What is written for the file at a path is a text that the transform leaves alone. -/
def Closed (transform : Transform) (t : Tree) (path : Path) : Prop :=
  ∀ text, fate (.ok transform) path (t.readText path) = .changed text →
    fate (.ok transform) path (some text) = .unchanged

section

variable {transform : Transform}

theorem fate_congr {p q : Path} (h : transform p = transform q) (text : Option String) :
    fate (.ok transform) p text = fate (.ok transform) q text := by
  unfold fate
  cases text.bind Json.read? with
  | none => rfl
  | some doc => simp only [h]

/-- A file that changes was a document, and gets the text of what was made of it. -/
theorem exists_output_of_changed {path : Path} {old : Option String} {text : String}
    (h : fate (.ok transform) path old = .changed text) : ∃ s x y, old = some s ∧
      Json.read? s = some x ∧ transform path x = .ok (some y) ∧ text = y.fileText := by
  unfold fate at h
  split at h
  · rename_i f x hload hread
    obtain rfl := Except.ok.inj hload
    obtain ⟨s, rfl, hread⟩ := Option.bind_eq_some_iff.1 hread
    split at h
    · rename_i y hy
      split at h
      · cases h
      · exact ⟨s, x, y, rfl, hread, hy, (Fate.changed.inj h).symm⟩
    · cases h
  · cases h

/-- The text of an output is left alone: it is read back as the output. -/
theorem fate_fileText {path : Path} {y z : Json} (hplain : y.isPlain = true) (hdepth : y.depth ≤ 127)
    (hagain : transform path y = .ok (some z)) (hsame : z.same y = true) :
    fate (.ok transform) path (some y.fileText) = .unchanged := by
  have hread : Json.read? y.fileText = some y :=
    Json.read?_fileText (Json.legible_of_isPlain y hplain hdepth)
  simp [fate, hread, hagain, hsame]

/-- To begin with, every file that is to be written is to get a text that is left alone. -/
theorem Repeatable.closed {t : Tree} {paths : List Path} (h : Repeatable transform t paths)
    {path : Path} (hpath : path ∈ paths) : Closed transform t path := by
  intro text hchanged
  obtain ⟨s, x, y, hs, hread, hy, rfl⟩ := exists_output_of_changed hchanged
  obtain ⟨hplain, hdepth⟩ := h.plain path hpath s x y hs hread hy
  obtain ⟨z, hz, hsame⟩ := h.idempotent path x y (Json.wellFormed_of_read? hread) hy
  exact fate_fileText hplain hdepth hz hsame

/-! ## One file -/

/-- How the file at a path would fare now. -/
def outlook (transform : Transform) (t : Tree) (path : Path) : FileOutcome :=
  (fate (.ok transform) path (t.readText path)).outcome

/-- The file at a path fares as before, or as settled. -/
def Progress (transform : Transform) (t t' : Tree) (path : Path) : Prop :=
  outlook transform t' path = outlook transform t path ∨
    outlook transform t' path = (outlook transform t path).settled

theorem Progress.trans {t t' t'' : Tree} {path : Path} (h : Progress transform t t' path)
    (h' : Progress transform t' t'' path) : Progress transform t t'' path := by
  unfold Progress at h h' ⊢
  rcases h with h | h <;> rcases h' with h' | h' <;> simp [h, h']

variable {paths : List Path}

/-- What holds of the files on the way: what is to be written is left alone afterwards, and paths of one
    file are transformed alike. -/
structure OnTheWay (transform : Transform) (paths : List Path) (t : Tree) : Prop where
  closed : ∀ p ∈ paths, Closed transform t p
  alike : ∀ p ∈ paths, ∀ q ∈ paths, t.SameFile p q → transform p = transform q

/-- All paths that lead to a file which is overwritten with a text that is left alone are settled by it,
    and all others are as before. -/
theorem OnTheWay.overwrite {t : Tree} (h : OnTheWay transform paths t) {path : Path}
    (hpath : path ∈ paths) {place : List String} {text : String}
    (hplace : t.place? path = some place)
    (hchanged : fate (.ok transform) path (t.readText path) = .changed text) {q : Path}
    (hq : q ∈ paths) :
    (t.SameFile path q ∧ fate (.ok transform) q ((t.overwrite place (.text text)).readText q)
        = .unchanged ∧ outlook transform t q = .changed) ∨
      (¬ t.SameFile path q ∧ (t.overwrite place (.text text)).readText q = t.readText q) := by
  by_cases hsame : t.SameFile path q
  · left
    have hqplace : t.place? q = some place := hsame.2.symm.trans hplace
    obtain ⟨own, old, hown, hold⟩ := exists_of_changed hchanged
    obtain rfl : own = place := Option.some.inj (hown.symm.trans hplace)
    -- at both paths the same text is read, before and after
    have hbefore : t.readText q = t.readText path := by
      rw [Tree.readText_of_place? hqplace, Tree.readText_of_place? hplace]
    have hafter : (t.overwrite own (.text text)).readText q = some text := by
      rw [Tree.readText_of_place? ((Tree.place?_overwrite t own (.text text) q).trans hqplace),
        Tree.content?_overwrite_self, hold]
      rfl
    have hfate := fate_congr (h.alike path hpath q hq hsame).symm
    refine ⟨hsame, ?_, ?_⟩
    · rw [hafter, hfate, h.closed path hpath text hchanged]
    · rw [outlook, hbefore, hfate, hchanged]
      rfl
  · exact Or.inr ⟨hsame, Tree.readText_overwrite (.text text) hplace hsame⟩

/-- **One file is settled by its turn**, and no other file fares otherwise than before or as settled. -/
theorem on_runFile_settles {path : Path} (hpath : path ∈ paths) {w : World}
    (h : OnTheWay transform paths w.tree) :
    ∃ w', (runFile false transform path).on w = (.ok (outlook transform w.tree path), w') ∧
      OnTheWay transform paths w'.tree ∧ (∀ q ∈ paths, Progress transform w.tree w'.tree q) ∧
      outlook transform w'.tree path = (outlook transform w.tree path).settled := by
  obtain ⟨w', hrun, htree⟩ := on_runFile false transform path w
  refine ⟨w', hrun, ?_⟩
  by_cases hchanged : ∃ text, fate (.ok transform) path (w.tree.readText path) = .changed text
  · obtain ⟨text, hchanged⟩ := hchanged
    obtain ⟨place, old, hplace, hold⟩ := exists_of_changed hchanged
    have htree : w'.tree = w.tree.overwrite place (.text text) := by
      rw [htree]
      simp [edits, edit?, hchanged, hplace]
    have hcases := fun q hq => h.overwrite hpath hplace hchanged (q := q) hq
    have hself : w.tree.SameFile path path := sameFile_of_changed hchanged hplace hplace
    rw [htree]
    refine ⟨⟨fun q hq => ?_, fun p hp q hq hsame => ?_⟩, fun q hq => ?_, ?_⟩
    · intro text' hchanged'
      rcases hcases q hq with ⟨-, hfate, -⟩ | ⟨-, hread⟩
      · rw [hfate] at hchanged'
        cases hchanged'
      · rw [hread] at hchanged'
        exact h.closed q hq text' hchanged'
    · exact h.alike p hp q hq (Tree.sameFile_overwrite.1 hsame)
    · rcases hcases q hq with ⟨-, hfate, hout⟩ | ⟨-, hread⟩
      · right
        rw [hout, outlook, hfate]
        rfl
      · left
        rw [outlook, hread, outlook]
    · rcases hcases path hpath with ⟨-, hfate, hout⟩ | ⟨hne, -⟩
      · rw [hout, outlook, hfate]
        rfl
      · exact absurd hself hne
  · -- nothing is written
    have hedits : edits false (.ok transform) w.tree [path] = [] := by
      have hedit : edit? (.ok transform) w.tree path = none := by
        rw [Option.eq_none_iff_forall_ne_some]
        intro e he
        obtain ⟨text, hfate, -, -⟩ := edit?_eq_some_iff.1 he
        exact hchanged ⟨text, hfate⟩
      simp [edits, hedit]
    have htree : w'.tree = w.tree := by
      rw [htree, hedits, Tree.overwriteAll_nil]
    rw [htree]
    refine ⟨h, fun q _ => Or.inl rfl, ?_⟩
    unfold outlook
    cases hfate : fate (.ok transform) path (w.tree.readText path) with
    | changed text => exact absurd ⟨text, hfate⟩ hchanged
    | unchanged => rfl
    | failed => rfl

/-! ## Many files -/

/-- **A run settles all its files.** -/
theorem on_runFiles_settles (r : Report) {rest : List Path} (hrest : ∀ p ∈ rest, p ∈ paths) {w : World}
    (h : OnTheWay transform paths w.tree) : ∃ (os : List FileOutcome) (w' : World),
      (runFiles false transform r rest).on w = (.ok (os.foldl tally r), w') ∧
      outcomes (.ok transform) w'.tree rest = os.map FileOutcome.settled ∧
      ∀ q ∈ paths, Progress transform w.tree w'.tree q := by
  induction rest generalizing r w with
  | nil => exact ⟨[], w, rfl, rfl, fun q _ => Or.inl rfl⟩
  | cons path rest ih =>
    have hpath := hrest path List.mem_cons_self
    obtain ⟨w₁, hfile, hway, hprogress, hsettled⟩ := on_runFile_settles hpath h
    obtain ⟨os, w', hrun, hos, hprogress'⟩ := ih
      (tally r (outlook transform w.tree path)) (fun p hp => hrest p (List.mem_cons_of_mem path hp)) hway
    refine ⟨outlook transform w.tree path :: os, w', ?_, ?_, fun q hq => ?_⟩
    · rw [runFiles, on_bind_ok hfile, hrun, List.foldl_cons]
    · -- what is settled stays as it is
      have hlast : outlook transform w'.tree path = (outlook transform w.tree path).settled := by
        rcases hprogress' path hpath with hout | hout <;> simp [hout, hsettled]
      rw [List.map_cons, ← hlast, ← hos]
      rfl
    · exact (hprogress q hq).trans (hprogress' q hq)

end

/-! ## Document codemods -/

theorem get?_keep_eq_toOption (s : Services) (w : World) (c : Codemod) :
    (keep s w c).get? c.uid = (obtained s w c).toOption := by
  rw [get?_keep_self, obtained]
  cases w.cache.get? c.uid <;> rfl

theorem obtained_recache_keep (s : Services) (w : World) (c : Codemod) :
    obtained s (w.recache (keep s w c)) c = obtained s w c := by
  rw [obtained, World.recache_cache, World.recache_tree, get?_keep_eq_toOption]
  unfold obtained
  cases w.cache.get? c.uid with
  | some f => rfl
  | none => cases Transform.load s.transforms w.tree c <;> rfl

/-- A codemod keeps the transform that it was run with. -/
theorem obtained_of_run {s : Services} {config : RunConfig} {c : Codemod} {paths : List Path}
    {w w' : World} {report : Report} (hkind : c.kind = .document)
    (hrun : (runAs .document s config c paths).on w = (.ok report, w')) :
    obtained s w' c = obtained s w c := by
  rw [on_runAs_document hkind] at hrun
  cases hload : obtained s w c with
  | error e =>
    -- nothing is written
    rw [hload] at hrun
    obtain ⟨-, rfl⟩ := Prod.mk.inj hrun
    rw [obtained_recache_keep, hload]
  | ok f =>
    have hrun : (runFiles config.dry f {} paths).on (w.recache (keep s w c)) = (.ok report, w') := by
      rw [hload] at hrun
      exact hrun
    have hcache := (runFiles_cacheBlind config.dry f {} paths).cache (w.recache (keep s w c))
    rw [hrun, World.recache_cache] at hcache
    have hkept : w'.cache.get? c.uid = some f := by
      rw [hcache, get?_keep_eq_toOption, hload]
      rfl
    rw [obtained, hkept]

/-- **To run an idempotent document codemod again changes nothing.** Suppose that its transform leaves
    alone what it makes of any document, that what it makes of the files at the paths has no doubles and
    nests at most 127 arrays and objects, and that it treats paths alike that lead to the same file. After
    a run that is not dry, the codemod still has its transform. A second run with it, in the same context
    or in another one, changes no file: it counts none as changed, as unchanged those that the first run
    counted as changed or unchanged, and as failed as many as the first run. All files are left as the first
    run has left them. -/
theorem rerun_idle (s : Services) (config : RunConfig) {c : Codemod} (paths : List Path) (w : World)
    (hkind : c.kind = .document) (hwet : config.dry = false)
    (hrepeatable : ∀ transform, obtained s w c = .ok transform → Repeatable transform w.tree paths) :
    ∃ first w₁, (runAs .document s config c paths).on w = (.ok first, w₁) ∧
      obtained s w₁ c = obtained s w c ∧
      ∀ (s' : Services) (w₂ : World), w₂.tree = w₁.tree → obtained s' w₂ c = obtained s w c →
        ∃ second w₃, (runAs .document s' config c paths).on w₂ = (.ok second, w₃) ∧
          second.ok = 0 ∧ second.nochange = first.ok + first.nochange ∧ second.error = first.error ∧
          w₃.tree = w₁.tree := by
  -- the first run leaves files that fare as settled
  have hfirst : ∃ os w₁, (runAs .document s config c paths).on w = (.ok (counted os), w₁) ∧
      outcomes (obtained s w c) w₁.tree paths = os.map FileOutcome.settled := by
    rw [on_runAs_document hkind, hwet]
    cases hload : obtained s w c with
    | error e =>
      refine ⟨outcomes (.error e) w.tree paths, w.recache (keep s w c), ?_, ?_⟩
      · rw [counted_outcomes_error]
      · rw [World.recache_tree]
        simp [outcomes, fate_error, Fate.outcome, FileOutcome.settled]
    | ok transform =>
      have hr := hrepeatable transform hload
      have hway : OnTheWay transform paths (w.recache (keep s w c)).tree :=
        ⟨fun p hp => hr.closed hp, hr.alike⟩
      obtain ⟨os, w₁, hrun, hos, -⟩ := on_runFiles_settles {} (fun _ hp => hp) hway
      rw [foldl_tally_nothing] at hrun
      exact ⟨os, w₁, hrun, hos⟩
  obtain ⟨os, w₁, hrun, hos⟩ := hfirst
  refine ⟨counted os, w₁, hrun, obtained_of_run hkind hrun, fun s' w₂ htree hload => ?_⟩
  have hcounted := counted_settled os
  rw [← hos, ← hload, ← htree] at hcounted
  have hidle : (runAs .document s' config c paths).on w₂ = _ := runAs_document_idle s' hkind
    (Or.inr (ok_counted_eq_zero_iff.1 (congrArg Report.ok hcounted)))
  rw [hcounted] at hidle
  exact ⟨_, _, hidle, rfl, rfl, rfl, htree⟩

/-! ## Labels and patches -/

/-- Whether what a transform makes of a document is plain and not nested too deep. -/
def makesPlain (transform : Transform) (p : Path) (x : Json) : Bool :=
  match transform p x with
  | .ok (some y) => y.isPlain && decide (y.depth ≤ 127)
  | _ => true

theorem writesPlain_of_all {transform : Transform} {t : Tree} {paths : List Path}
    (h : ∀ p ∈ paths, (((t.readText p).bind Json.read?).all fun x => makesPlain transform p x) = true) :
    WritesPlain transform t paths := by
  intro p hp text x y htext hread hy
  have hall := h p hp
  rw [htext, Option.bind_some, hread, Option.all_some, makesPlain, hy] at hall
  simpa using hall

/-- Write the path of a document into its member `at`. -/
def label : Transform := fun p d =>
  match d with
  | .obj fields => .ok (some (.obj (Fields.put fields "at" (.str p.text))))
  | _ => .ok none

theorem idempotent_label : Idempotent label := by
  intro p x y hx hy
  cases x with
  | obj fields =>
    obtain rfl := Option.some.inj (Except.ok.inj hy)
    refine ⟨.obj (Fields.put fields "at" (.str p.text)), ?_, Json.same_self _ (Json.wellFormed_put hx rfl)⟩
    rw [label, Fields.put_put]
  | _ => cases hy

theorem obtained_label (t : Tree) :
    obtained { engine := .none, transforms := [("p", label)] } { tree := t }
      (Repository.patchFor "p.document.json") = .ok label := by
  have hname : (Repository.patchFor "p.document.json").name = "p" := by decide
  have huid : (Repository.patchFor "p.document.json").uid ≠ "p" := by decide
  simp [obtained, Transform.load, Fields.get?, hname, huid.symm]

/-- A document without a label, one that has its label already, and a text that is no document. -/
def shelfmarks : Tree :=
  .dir [("a.json", .file (.text "\x7b\"é\":[-1]\x7d")),
    ("b.json", .file (.text "\x7b\"at\":\"/b.json\",\"n\":18446744073709551615\x7d")),
    ("bad.json", .file (.text "\x7b n"))]

/-- The first run labels one of four files, and two fail. The second finds both labels, and the same two
    fail. -/
theorem rerun_idle_labels :
    let s : Services := { engine := .none, transforms := [("p", label)] }
    let c := Repository.patchFor "p.document.json"
    let w : World := { tree := shelfmarks }
    let paths : List Path := [⟨"/a.json"⟩, ⟨"/b.json"⟩, ⟨"/bad.json"⟩, ⟨"/none.json"⟩]
    c.kind = .document ∧ obtained s w c = .ok label ∧ Repeatable label w.tree paths ∧
      ∃ w₁ second w₃,
        (runAs .document s {} c paths).on w = (.ok { ok := 1, nochange := 1, error := 2 }, w₁) ∧
        (runAs .document s {} c paths).on w₁ = (.ok second, w₃) ∧ second.ok = 0 ∧
        second.nochange = 2 ∧ second.error = 2 ∧ w₃.tree = w₁.tree := by
  intro s c w paths
  have hload : obtained s w c = .ok label := obtained_label shelfmarks
  have hapart : paths.Pairwise fun p q => ¬ w.tree.SameFile p q := by decide +kernel
  have hrepeatable : Repeatable label w.tree paths := by
    refine ⟨idempotent_label, writesPlain_of_all (by decide +kernel), fun p hp q hq hsame => ?_⟩
    by_cases hne : p = q
    · rw [hne]
    · exact absurd hsame (hapart.forall hp hq hne)
  obtain ⟨first, w₁, hfirst, hkept, hsecond⟩ := rerun_idle s {} paths w rfl rfl
    fun transform htransform => Except.ok.inj (hload.symm.trans htransform) ▸ hrepeatable
  have hcounts : ((runAs .document s {} c paths).on w).1.toOption
      = some { ok := 1, nochange := 1, error := 2 } := by decide +kernel
  rw [hfirst] at hcounts
  obtain rfl := Option.some.inj hcounts
  obtain ⟨second, w₃, hrun, hok, hnochange, herror, htree⟩ := hsecond s w₁ rfl hkept
  exact ⟨rfl, hload, hrepeatable, w₁, second, w₃, hfirst, hrun, hok, hnochange, herror, htree⟩

/-- A document that two paths lead to, with a directory on one of the ways. -/
def aliased : Tree :=
  .dir [("a.json", .file (.text "\x7b\x7d")), ("d", .dir [])]

/-- Replace the member `path` in the first of some objects. -/
def redirect : Patch := [.replace ⟨"/0/path", ["0", "path"]⟩ (.str "/0/value")]

/-- Whether that patch was read. -/
def isRedirect : Except Patch.LoadFault Patch → Bool
  | .ok [.replace p (.str s)] => p = ⟨"/0/path", ["0", "path"]⟩ && s = "/0/value"
  | _ => false

theorem eq_redirect {read : Except Patch.LoadFault Patch} (h : isRedirect read = true) :
    read = .ok redirect := by
  unfold isRedirect at h
  split at h
  · simp only [Bool.and_eq_true, decide_eq_true_eq] at h
    rw [h.1, h.2, redirect]
  · cases h

theorem idempotent_redirect : Idempotent (Transform.ofPatch redirect) := by
  intro p x y hx hy
  obtain ⟨hagain, hwf⟩ := Patch.ofPatch_replace_again hx rfl hy
  exact ⟨y, hagain, Json.same_self y hwf⟩

/-- The patch as it is written. -/
def redirectText : String :=
  "[\x7b\"op\":\"replace\",\"path\":\"/0/path\",\"value\":\"/0/value\"\x7d]"

/-- A document, and the codemod that redirects documents, which is a document of the same form. -/
def redirected : Tree :=
  .dir [("a.json", .file (.text "[\x7b\"path\":1,\"value\":1\x7d]")),
    ("codemods", .dir [("2.0.0", .dir [("p.document.json", .file (.text redirectText))])])]

theorem obtained_redirect :
    obtained { engine := .none } { tree := redirected } (Repository.patchFor "p.document.json")
      = .ok (Transform.ofPatch redirect) := by
  have htext : redirected.readText (Repository.patchFor "p.document.json").path = some redirectText := by
    decide +kernel
  have hextension : (Repository.patchFor "p.document.json").path.extension? = some "json" := by
    decide +kernel
  have hpatch : Patch.ofText (some "json") redirectText = .ok redirect :=
    eq_redirect (by decide +kernel)
  change (Transform.patchAt redirected (Repository.patchFor "p.document.json").path).map
    Transform.ofPatch = _
  simp only [Transform.patchAt, htext, hextension, hpatch]
  rfl

/-- It is not enough that the paths are different and the transform is idempotent. Where two of them lead
    to one file, a transform that writes down the path changes this file at both, in every run. And a
    codemod that is run on its own patch makes another patch of it: a second run in a new context applies
    that one. -/
theorem rerun_busy :
    let c := Repository.patchFor "p.document.json"
    (let s : Services := { engine := .none, transforms := [("p", label)] }
      let w : World := { tree := aliased }
      let paths : List Path := [⟨"/a.json"⟩, ⟨"/d/../a.json"⟩]
      let first := (runAs .document s {} c paths).on w
      (paths.Pairwise fun p q => p.same q = false) ∧ obtained s w c = .ok label ∧
        Idempotent label ∧ WritesPlain label w.tree paths ∧ first.1.toOption = some { ok := 2 } ∧
        ((runAs .document s {} c paths).on first.2).1.toOption = some { ok := 2 }) ∧
    (let s : Services := { engine := .none }
      let w : World := { tree := redirected }
      let paths : List Path := [⟨"/a.json"⟩, ⟨"/codemods/2.0.0/p.document.json"⟩]
      let first := (runAs .document s {} c paths).on w
      obtained s w c = .ok (Transform.ofPatch redirect) ∧
        Repeatable (Transform.ofPatch redirect) w.tree paths ∧ first.1.toOption = some { ok := 2 } ∧
        ((runAs .document s {} c paths).on { tree := first.2.tree }).1.toOption
          = some { ok := 1, nochange := 1 }) := by
  intro c
  refine ⟨⟨by decide +kernel, obtained_label aliased, idempotent_label,
      writesPlain_of_all (by decide +kernel), by decide +kernel, by decide +kernel⟩,
    obtained_redirect, ⟨idempotent_redirect, writesPlain_of_all (by decide +kernel), fun _ _ _ _ _ => rfl⟩,
    by decide +kernel, by decide +kernel⟩

end Uplift.Runner
