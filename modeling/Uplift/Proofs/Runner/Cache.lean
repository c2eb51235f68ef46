import Uplift.Proofs.List
import Uplift.Proofs.Repository.Uid
import Uplift.Proofs.Runner

set_option autoImplicit false

/-! # What the loaded transforms do to a run

Transforms are kept under the uid of the codemod that they were loaded for. A document codemod is thus
run with the transform of the first codemod of the run that has its uid and could be loaded, which
need not be its own (`transformOf_after`). Where it is its own, the codemod does and reports what it would
with nothing loaded (`asFresh_of_own`). This is so for all codemods of a run unless two of them clash
(`cache_transparent`). -/

namespace Uplift

open Uplift.Action

/-- The same world with other transforms loaded. -/
def World.recache (w : World) (cache : Fields Transform) : World := { w with cache }

@[simp] theorem World.recache_tree (w : World) (k : Fields Transform) : (w.recache k).tree = w.tree :=
  rfl

@[simp] theorem World.recache_log (w : World) (k : Fields Transform) : (w.recache k).log = w.log := rfl

@[simp] theorem World.recache_cache (w : World) (k : Fields Transform) : (w.recache k).cache = k := rfl

@[simp] theorem World.recache_recache (w : World) (k l : Fields Transform) :
    (w.recache k).recache l = w.recache l := rfl

@[simp] theorem World.recache_self (w : World) : w.recache w.cache = w := rfl

theorem Transform.load_congr {registered : Fields Transform} {t t' : Tree} {c : Codemod}
    (h : t'.readText c.path = t.readText c.path) : load registered t' c = load registered t c := by
  unfold load patchAt
  rw [h]

namespace Runner

variable {s : Services}

/-! ## What does not look at the loaded transforms -/

/-- An action that neither looks at the loaded transforms nor loads any. -/
def CacheBlind {ε α : Type} (a : Action ε α) : Prop :=
  ∀ w k, a.on (w.recache k) = ((a.on w).1, (a.on w).2.recache k)

theorem CacheBlind.bind {ε α β : Type} {a : Action ε α} {f : α → Action ε β} (ha : CacheBlind a)
    (hf : ∀ x, CacheBlind (f x)) : CacheBlind (a >>= f) := by
  intro w k
  rw [on_bind, on_bind, ha w k]
  rcases a.on w with ⟨e | x, w'⟩
  · rfl
  · exact hf x w' k

theorem runFile_cacheBlind (dry : Bool) (transform : Transform) (path : Path) :
    CacheBlind (runFile dry transform path) := by
  intro w k
  unfold runFile
  rw [on_bind_ok (on_get w), on_bind_ok (on_get (w.recache k)), World.recache_tree]
  split
  · rfl
  · rfl
  · rename_i text _
    cases dry with
    | true => rfl
    | false =>
      have hwrite : CacheBlind (Action.write path text : Action TransformError Bool) := by
        intro w k
        simp only [on, Action.write, ExceptT.run, World.recache_tree]
        cases w.tree.write path (.text text) <;> rfl
      exact (hwrite.bind fun written => by cases written <;> exact fun _ _ => rfl) w k

theorem runFiles_cacheBlind (dry : Bool) (transform : Transform) (r : Report) (paths : List Path) :
    CacheBlind (runFiles dry transform r paths) := by
  induction paths generalizing r with
  | nil => exact fun _ _ => rfl
  | cons path rest ih => exact (runFile_cacheBlind dry transform path).bind fun outcome => ih _

theorem runCode_cacheBlind (config : RunConfig) (c : Codemod) (paths : List Path) :
    CacheBlind (runCode s config c paths) := by
  intro w k
  unfold runCode
  split
  · rfl
  · rw [on_bind_ok (on_get w), on_bind_ok (on_get (w.recache k)), on_bind_ok (on_set _ _),
      on_bind_ok (on_set _ _), on_bind_ok (on_record _ _), on_bind_ok (on_record _ _)]
    simp only [World.recache_tree, World.recache_log]
    split <;> rfl

theorem CacheBlind.cache {ε α : Type} {a : Action ε α} (h : CacheBlind a) (w : World) :
    (a.on w).2.cache = w.cache := by
  have hself := h w w.cache
  rw [World.recache_self] at hself
  rw [hself]
  rfl

/-! ## One codemod -/

/-- Whether a codemod gets as far as loading a transform. -/
def loads (s : Services) (c : Codemod) : Bool := c.kind = .document && s.kinds.contains .document

/-- What a codemod is run with: the transform that is kept under its uid, or else its own. -/
def obtained (s : Services) (w : World) (c : Codemod) : Except TransformError Transform :=
  match w.cache.get? c.uid with
  | some transform => .ok transform
  | none => Transform.load s.transforms w.tree c

/-- What is kept after a codemod was run. -/
def keep (s : Services) (w : World) (c : Codemod) : Fields Transform :=
  match w.cache.get? c.uid, Transform.load s.transforms w.tree c with
  | none, .ok transform => w.cache.put c.uid transform
  | _, _ => w.cache

theorem get?_keep_self (w : World) (c : Codemod) : (keep s w c).get? c.uid
    = (w.cache.get? c.uid).or (Transform.load s.transforms w.tree c).toOption := by
  unfold keep
  cases hget : w.cache.get? c.uid with
  | some transform => simp [hget]
  | none => cases Transform.load s.transforms w.tree c <;> simp [hget, Except.toOption]

theorem get?_keep_of_ne {w : World} {c : Codemod} {uid : String} (h : uid ≠ c.uid) :
    (keep s w c).get? uid = w.cache.get? uid := by
  unfold keep
  split
  · exact Fields.get?_put_of_ne _ _ h
  · rfl

theorem on_transformOf (c : Codemod) (w : World) :
    (transformOf s c).on w = (obtained s w c, w.recache (keep s w c)) := by
  unfold transformOf obtained keep
  rw [on_bind_ok (on_get w)]
  cases w.cache.get? c.uid with
  | some transform => rfl
  | none => cases Transform.load s.transforms w.tree c <;> rfl

/-- Apply a transform to files, if there is one. -/
def runLoaded (config : RunConfig) (paths : List Path) :
    Except TransformError Transform → Action TransformError Report
  | .ok transform => runFiles config.dry transform {} paths
  | .error _ => return { error := paths.length }

theorem runLoaded_cacheBlind (config : RunConfig) (paths : List Path)
    (loaded : Except TransformError Transform) : CacheBlind (runLoaded config paths loaded) := by
  cases loaded with
  | error e => exact fun _ _ => rfl
  | ok transform => exact runFiles_cacheBlind config.dry transform {} paths

/-- A codemod that loads a transform is run with the one that it obtains. -/
theorem on_run_of_loads {c : Codemod} (h : loads s c = true) (config : RunConfig) (paths : List Path)
    (w : World) :
    (run s config c paths).on w
      = (((runLoaded config paths (obtained s w c)).on w).1,
        ((runLoaded config paths (obtained s w c)).on w).2.recache (keep s w c)) := by
  simp only [loads, Bool.and_eq_true, decide_eq_true_eq] at h
  obtain ⟨hkind, hkinds⟩ := h
  have hrun : (run s config c paths).on w = (runDocument s config c paths).on w := by
    rw [on_run, hkind, if_pos hkinds]
    simp [runAs, hkind]
  rw [hrun, on_runDocument, on_transformOf, ← runLoaded_cacheBlind config paths (obtained s w c) w]
  cases obtained s w c <;> rfl

theorem run_cacheBlind {c : Codemod} (h : loads s c = false) (config : RunConfig)
    (paths : List Path) : CacheBlind (run s config c paths) := by
  intro w k
  cases hkinds : s.kinds.contains c.kind with
  | false =>
    rw [on_run, on_run, hkinds]
    rfl
  | true =>
    have hcode : c.kind = .code := by
      cases hkind : c.kind with
      | code => rfl
      | document =>
        rw [hkind] at hkinds
        simp only [loads, hkind, hkinds] at h
        cases h
    have hrun : ∀ w, (run s config c paths).on w = (runCode s config c paths).on w := by
      intro w
      rw [on_run, if_pos hkinds, hcode]
      simp [runAs, hcode]
    rw [hrun, hrun]
    exact runCode_cacheBlind config c paths w k

/-- Running a codemod from `w` and running it with nothing loaded come to the same: the outcome, the
    files and the log. -/
structure AsFresh (s : Services) (config : RunConfig) (c : Codemod) (paths : List Path) (w : World) :
    Prop where
  outcome : ((run s config c paths).on w).1 = ((run s config c paths).on (w.recache [])).1
  tree : ((run s config c paths).on w).2.tree = ((run s config c paths).on (w.recache [])).2.tree
  log : ((run s config c paths).on w).2.log = ((run s config c paths).on (w.recache [])).2.log

/-- A codemod that is run with its own transform is run as with nothing loaded. -/
theorem asFresh_of_own {c : Codemod} {w : World}
    (h : loads s c = true → obtained s w c = Transform.load s.transforms w.tree c) (config : RunConfig)
    (paths : List Path) : AsFresh s config c paths w := by
  cases hloads : loads s c with
  | false =>
    have hblind := run_cacheBlind hloads config paths w []
    exact ⟨by rw [hblind], by rw [hblind]; rfl, by rw [hblind]; rfl⟩
  | true =>
    have hobtained : obtained s (w.recache []) c = obtained s w c := (h hloads).symm
    have hblind := runLoaded_cacheBlind config paths (obtained s w c) w []
    have hfresh := on_run_of_loads hloads config paths (w.recache [])
    rw [hobtained, hblind] at hfresh
    have hrun := on_run_of_loads hloads config paths w
    exact ⟨by rw [hrun, hfresh], by rw [hrun, hfresh]; rfl, by rw [hrun, hfresh]; rfl⟩

/-! ## Codemods one after the other -/

/-- A codemod that is to be run on files. -/
structure Job where
  codemod : Codemod
  config : RunConfig
  paths : List Path

/-- The world after jobs were done one after the other, whatever each of them came to. -/
def after (s : Services) : List Job → World → World
  | [], w => w
  | j :: js, w => after s js ((run s j.config j.codemod j.paths).on w).2

/-- The transform that is kept under a uid after some codemods were run: that of the first which has
    the uid and could be loaded. -/
def kept (s : Services) (t : Tree) (uid : String) (codemods : List Codemod) : Option Transform :=
  codemods.findSome? fun c =>
    if loads s c && c.uid = uid then (Transform.load s.transforms t c).toOption else none

/-- What one job adds to the loaded transforms. -/
theorem get?_cache_run {t : Tree} {done : List Codemod} {w : World} {j : Job}
    (hw : ∀ uid, w.cache.get? uid = kept s t uid done)
    (hload : Transform.load s.transforms w.tree j.codemod = Transform.load s.transforms t j.codemod)
    (uid : String) :
    ((run s j.config j.codemod j.paths).on w).2.cache.get? uid = kept s t uid (done ++ [j.codemod]) := by
  have happend : kept s t uid (done ++ [j.codemod])
      = (kept s t uid done).or (kept s t uid [j.codemod]) := List.findSome?_append
  cases hloads : loads s j.codemod with
  | false =>
    rw [(run_cacheBlind hloads j.config j.paths).cache w, hw, happend]
    simp [kept, hloads]
  | true =>
    rw [on_run_of_loads hloads, happend, World.recache_cache]
    by_cases huid : j.codemod.uid = uid
    · subst huid
      rw [get?_keep_self, hw, hload]
      simp [kept, hloads]
    · rw [get?_keep_of_ne (Ne.symm huid), hw]
      simp [kept, huid]

/-- What some jobs add to the loaded transforms, as long as their codemods load as they do from the
    files `t`. -/
theorem get?_cache_after {t : Tree} {jobs : List Job} {done : List Codemod} {w : World}
    (hw : ∀ uid, w.cache.get? uid = kept s t uid done)
    (hload : ∀ front j rest, jobs = front ++ j :: rest →
      Transform.load s.transforms (after s front w).tree j.codemod
        = Transform.load s.transforms t j.codemod) (uid : String) :
    (after s jobs w).cache.get? uid = kept s t uid (done ++ jobs.map Job.codemod) := by
  induction jobs generalizing done w with
  | nil => simpa [after] using hw uid
  | cons j js ih =>
    have hnext := get?_cache_run hw (hload [] j js rfl)
    have hrest := ih hnext fun front j' rest hjs => hload (j :: front) j' rest (by rw [hjs]; rfl)
    simpa [after] using hrest

/-- The files of the codemods are not changed while the jobs are done. -/
def PatchesKept (s : Services) (jobs : List Job) (w : World) : Prop :=
  ∀ front, front <+: jobs → ∀ j ∈ jobs,
    (after s front w).tree.readText j.codemod.path = w.tree.readText j.codemod.path

/-- Every document codemod is run with the transform that is loaded from its own file. -/
def OwnTransforms (s : Services) (jobs : List Job) (w : World) : Prop :=
  ∀ front j rest, jobs = front ++ j :: rest → loads s j.codemod = true →
    ((transformOf s j.codemod).on (after s front w)).1
      = Transform.load s.transforms w.tree j.codemod

theorem PatchesKept.load_eq {jobs : List Job} {w : World} (h : PatchesKept s jobs w)
    {front rest : List Job} {j : Job} (hjobs : jobs = front ++ j :: rest) :
    Transform.load s.transforms (after s front w).tree j.codemod
      = Transform.load s.transforms w.tree j.codemod := by
  refine Transform.load_congr (h front ?_ j ?_)
  · rw [hjobs]
    exact List.prefix_append _ _
  · rw [hjobs]
    exact List.mem_append_right front List.mem_cons_self

/-- What a codemod is run with after other jobs of a run that started with nothing loaded. -/
theorem transformOf_after {jobs front rest : List Job} {j : Job} {w : World} (hcache : w.cache = [])
    (hkept : PatchesKept s jobs w) (hjobs : jobs = front ++ j :: rest) :
    ((transformOf s j.codemod).on (after s front w)).1
      = match kept s w.tree j.codemod.uid (front.map Job.codemod) with
        | some transform => .ok transform
        | none => Transform.load s.transforms w.tree j.codemod := by
  have hnothing : ∀ uid, w.cache.get? uid = kept s w.tree uid [] := by
    intro uid
    rw [hcache]
    rfl
  have hloads : ∀ front' j' rest', front = front' ++ j' :: rest' →
      Transform.load s.transforms (after s front' w).tree j'.codemod
        = Transform.load s.transforms w.tree j'.codemod := by
    intro front' j' rest' hfront
    have hsplit : jobs = front' ++ j' :: (rest' ++ j :: rest) := by rw [hjobs, hfront]; simp
    exact hkept.load_eq hsplit
  have hget := get?_cache_after hnothing hloads j.codemod.uid
  rw [on_transformOf, obtained, hget, hkept.load_eq hjobs]
  rfl

/-- A codemod that shares its uid with an earlier one loads the same transform, if that one could be
    loaded. -/
def LoadsAlike (s : Services) (t : Tree) (a b : Codemod) : Prop :=
  loads s a = true → loads s b = true → a.uid = b.uid →
    ∀ transform, Transform.load s.transforms t a = .ok transform →
      Transform.load s.transforms t b = .ok transform

theorem exists_of_kept {t : Tree} {uid : String} {codemods : List Codemod} {transform : Transform}
    (h : kept s t uid codemods = some transform) : ∃ c ∈ codemods, loads s c = true ∧ c.uid = uid ∧
      Transform.load s.transforms t c = .ok transform := by
  obtain ⟨c, hc, hfound⟩ := List.exists_of_findSome?_eq_some h
  split at hfound
  · rename_i hcond
    obtain ⟨hloads, huid⟩ : loads s c = true ∧ c.uid = uid := by simpa using hcond
    refine ⟨c, hc, hloads, huid, ?_⟩
    cases hload : Transform.load s.transforms t c with
    | error e => rw [hload] at hfound; cases hfound
    | ok own => rw [hload] at hfound; rw [Option.some.inj hfound]
  · cases hfound

/-- If all codemods are run with their own transforms, what is kept under the uid of one of them that
    could be loaded is the transform of that one. -/
theorem OwnTransforms.kept_eq {jobs front rest : List Job} {w : World} (hcache : w.cache = [])
    (hkept : PatchesKept s jobs w) (hown : OwnTransforms s jobs w) (hjobs : jobs = front ++ rest)
    {a : Codemod} (ha : a ∈ front.map Job.codemod) (hloads : loads s a = true) {transform : Transform}
    (hload : Transform.load s.transforms w.tree a = .ok transform) :
    kept s w.tree a.uid (front.map Job.codemod) = some transform := by
  obtain ⟨j, hj, rfl⟩ := List.mem_map.1 ha
  obtain ⟨before, behind, rfl⟩ := List.append_of_mem hj
  have hsplit : jobs = before ++ j :: (behind ++ rest) := by rw [hjobs]; simp
  have hobtained := hown before j _ hsplit hloads
  rw [transformOf_after hcache hkept hsplit, hload] at hobtained
  have happend : kept s w.tree j.codemod.uid ((before ++ j :: behind).map Job.codemod)
      = (kept s w.tree j.codemod.uid (before.map Job.codemod)).or
        (kept s w.tree j.codemod.uid (j.codemod :: behind.map Job.codemod)) := by
    rw [List.map_append, List.map_cons]
    exact List.findSome?_append
  rw [happend]
  -- what an earlier codemod has left under the uid is what this one was run with, hence its own
  cases hbefore : kept s w.tree j.codemod.uid (before.map Job.codemod) with
  | some earlier =>
    rw [hbefore] at hobtained
    rw [Except.ok.inj hobtained]
    rfl
  | none => simp [kept, hloads, hload, Except.toOption]

/-- **Codemods are run with their own transforms exactly when those that share a uid load alike.** -/
theorem ownTransforms_iff {jobs : List Job} {w : World} (hcache : w.cache = [])
    (hkept : PatchesKept s jobs w) :
    OwnTransforms s jobs w ↔ (jobs.map Job.codemod).Pairwise (LoadsAlike s w.tree) := by
  rw [pairwise_iff_before]
  constructor
  · intro hown frontC b restC hmap a ha hloadsA hloadsB huid transform hload
    obtain ⟨front, tail, rfl, rfl, htail⟩ := List.map_eq_append_iff.1 hmap
    obtain ⟨j, rest, rfl, rfl, -⟩ := List.map_eq_cons_iff.1 htail
    -- the later codemod is run with what the earlier one has left
    have hfront := hown.kept_eq hcache hkept rfl ha hloadsA hload
    have hobtained := hown front j rest rfl hloadsB
    rw [transformOf_after hcache hkept rfl, ← huid, hfront] at hobtained
    exact hobtained.symm
  · intro halike front j rest hjobs hloads
    rw [transformOf_after hcache hkept hjobs]
    split
    · rename_i transform hfound
      obtain ⟨a, ha, hloadsA, huid, hload⟩ := exists_of_kept hfound
      have hsplit : jobs.map Job.codemod
          = front.map Job.codemod ++ j.codemod :: rest.map Job.codemod := by rw [hjobs]; simp
      exact (halike _ _ _ hsplit a ha hloadsA hloads huid transform hload).symm
    · rfl

/-- **Loaded transforms do not show, clashes apart.** Let codemods of a repository be run one after the
    other, starting with nothing loaded, while their own files stay as they are. Each document codemod
    is run with the transform of its own file exactly when codemods that share a uid load alike. Each
    codemod then does and reports what it would with nothing loaded. All this is so if no two document
    codemods among them clash. -/
theorem cache_transparent {t : Tree} {root : Path} {r : Repository} {jobs : List Job} {w : World}
    (ht : t.wellFormed = true) (hload : Repository.load t root = .ok r)
    (hjobs : ∀ j ∈ jobs, j.codemod ∈ r.codemods) (hcache : w.cache = [])
    (hkept : PatchesKept s jobs w) :
    (OwnTransforms s jobs w ↔ (jobs.map Job.codemod).Pairwise (LoadsAlike s w.tree)) ∧
    (OwnTransforms s jobs w → ∀ front j rest, jobs = front ++ j :: rest →
      AsFresh s j.config j.codemod j.paths (after s front w)) ∧
    ((∀ i ∈ jobs, ∀ j ∈ jobs, i.codemod.kind = .document → ¬ i.codemod.Clash j.codemod) →
      OwnTransforms s jobs w) := by
  have hiff := ownTransforms_iff hcache hkept
  refine ⟨hiff, fun hown front j rest hsplit => ?_, fun hnone => hiff.2 ?_⟩
  · refine asFresh_of_own (fun hloads => ?_) j.config j.paths
    have hobtained := hown front j rest hsplit hloads
    rw [on_transformOf, ← hkept.load_eq hsplit] at hobtained
    exact hobtained
  · refine List.pairwise_of_forall_mem_list fun a ha b hb hloads _ huid transform hown => ?_
    obtain ⟨i, hi, rfl⟩ := List.mem_map.1 ha
    obtain ⟨j, hj, rfl⟩ := List.mem_map.1 hb
    have hkind : i.codemod.kind = .document := by
      simp only [loads, Bool.and_eq_true, decide_eq_true_eq] at hloads
      exact hloads.1
    rcases (Repository.uid_eq_iff_of_load ht hload (hjobs i hi) (hjobs j hj)).1 huid with heq | hclash
    · rw [← heq]
      exact hown
    · exact absurd hclash (hnone i hi j hj hkind)

/-- A codemod of a prerelease. -/
def prepatch : Codemod :=
  ⟨.document, ⟨2, 0, 0, [.word ⟨"a", rfl⟩], []⟩, ⟨"/codemods/2.0.0-a"⟩, "b.document.json"⟩

/-- A disk with a document and two patches, the one of the prerelease and another. -/
def patchDisk (file : String) : Tree :=
  .dir [("app", .dir [("package.json", .file (.text "\x7b\x7d"))]),
    ("codemods", .dir [
      ("2.0.0-a", .dir [("b.document.json",
        .file (.text "[\x7b\"op\":\"add\",\"path\":\"/b\",\"value\":2\x7d]"))]),
      ("2.0.0", .dir [(file,
        .file (.text "[\x7b\"op\":\"add\",\"path\":\"/a\",\"value\":1\x7d]"))])])]

/-- Both patches are run on the document. -/
def patchJobs (file : String) : List Job :=
  [⟨prepatch, {}, [⟨"/app/package.json"⟩]⟩,
    ⟨Repository.patchFor file, {}, [⟨"/app/package.json"⟩]⟩]

/-- What is loaded from the disk. -/
def patchRepository (file : String) : Repository where
  root := ⟨"/codemods"⟩
  collections := [⟨prepatch.version, [prepatch]⟩, ⟨.release 2 0 0, [Repository.patchFor file]⟩]

theorem patchesKept_of_two {i j : Job} {w : World}
    (h : ∀ front ∈ [[], [i], [i, j]], ∀ k ∈ [i, j],
      (after s front w).tree.readText k.codemod.path = w.tree.readText k.codemod.path) :
    PatchesKept s [i, j] w := by
  intro front hfront
  refine h front ?_
  rcases List.prefix_cons_iff.1 hfront with rfl | ⟨rest, rfl, hrest⟩
  · simp
  · rcases List.prefix_cons_iff.1 hrest with rfl | ⟨last, rfl, hlast⟩
    · simp
    · simp [List.prefix_nil.1 hlast]

/-- The two patches do not clash, so that the second is run with its own transform. -/
theorem cache_transparent_two_patches :
    let jobs := patchJobs "c.document.json"
    let w : World := { tree := patchDisk "c.document.json" }
    w.tree.wellFormed = true ∧
      Repository.load w.tree ⟨"/codemods"⟩ = .ok (patchRepository "c.document.json") ∧
      (∀ j ∈ jobs, j.codemod ∈ (patchRepository "c.document.json").codemods) ∧
      PatchesKept { engine := .none } jobs w ∧
      (∀ i ∈ jobs, ∀ j ∈ jobs, i.codemod.kind = .document → ¬ i.codemod.Clash j.codemod) ∧
      ∀ front j rest, jobs = front ++ j :: rest →
        AsFresh { engine := .none } j.config j.codemod j.paths (after { engine := .none } front w) := by
  intro jobs w
  have hwf : w.tree.wellFormed = true := by decide
  have hload : Repository.load w.tree ⟨"/codemods"⟩ = .ok (patchRepository "c.document.json") := rfl
  have hjobs : ∀ j ∈ jobs, j.codemod ∈ (patchRepository "c.document.json").codemods := by decide
  have hkept : PatchesKept { engine := .none } jobs w := patchesKept_of_two (by decide +kernel)
  have hnone := (Repository.nodup_uids hwf hload).1 (by decide)
  have hclash : ∀ i ∈ jobs, ∀ j ∈ jobs, i.codemod.kind = .document → ¬ i.codemod.Clash j.codemod :=
    fun i hi j hj _ => hnone _ (hjobs i hi) _ (hjobs j hj)
  obtain ⟨-, hfresh, hown⟩ := cache_transparent hwf hload hjobs rfl hkept
  exact ⟨hwf, hload, hjobs, hkept, hclash, hfresh (hown hclash)⟩

/-- Two patches that share a uid: the second finds the transform of the first loaded, which has nothing
    left to do, while with nothing loaded it would change the document. -/
theorem cache_of_clashing_patches :
    let jobs := patchJobs "a-b.document.json"
    let w : World := { tree := patchDisk "a-b.document.json" }
    let second := run { engine := .none } {} (Repository.patchFor "a-b.document.json")
      [⟨"/app/package.json"⟩]
    let w₁ := after { engine := .none } (jobs.take 1) w
    (w.tree.wellFormed = true ∧
      Repository.load w.tree ⟨"/codemods"⟩ = .ok (patchRepository "a-b.document.json") ∧
      (∀ j ∈ jobs, j.codemod ∈ (patchRepository "a-b.document.json").codemods) ∧
      PatchesKept { engine := .none } jobs w) ∧
    (second.on w₁).1.toOption = some { nochange := 1 } ∧
    (second.on (w₁.recache [])).1.toOption = some { ok := 1 } := by
  intro jobs w second w₁
  refine ⟨⟨by decide, rfl, by decide, patchesKept_of_two (by decide +kernel)⟩, ?_, ?_⟩
  · decide +kernel
  · decide +kernel

end Runner

end Uplift
