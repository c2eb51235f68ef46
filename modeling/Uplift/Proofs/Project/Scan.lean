import Uplift.Proofs.Glob
import Uplift.Proofs.Manifest.RoundTrip
import Uplift.Proofs.Path
import Uplift.Proofs.Project
import Uplift.Proofs.Tree.Overwrite

set_option autoImplicit false

/-! # A scan lists the candidate files

A walk from a root goes down every directory that no pattern matches. Since the patterns for a name match
a path exactly if the name is one of its components, what the walk leaves out is what has an excluded name
somewhere on the way (`mem_walk`). The scan puts what is found below all roots in the order of paths, and
drops what was found twice (`files_exact`). The manifest is a root of its own, so that a project that was
loaded or refreshed has it among its files. -/

namespace Uplift

open Std

theorem ProjectKind.policy_mem (kind : ProjectKind) :
    kind.policy ∈ [Policy.application, Policy.plugin] := by
  cases kind with
  | application v => exact List.mem_cons_self
  | plugin => exact List.mem_cons_of_mem _ List.mem_cons_self

namespace Scan

/-! ## Patterns -/

theorem globs_flatMap {dirs : List String} (h : ∀ d ∈ dirs, Glob.Nameable d) (cwd : Path) :
    globs cwd (dirs.flatMap fun d => ["**/" ++ d, "**/" ++ d ++ "/**"])
      = .ok (dirs.flatMap fun d => [Glob.named d, Glob.belowNamed d]) := by
  unfold globs
  induction dirs with
  | nil => rfl
  | cons d dirs ih =>
    obtain ⟨hd, hdirs⟩ := List.forall_mem_cons.1 h
    simp only [List.flatMap_cons, List.cons_append, List.nil_append, List.mapM_cons,
      Glob.read?_named hd.ordinary, Glob.read?_belowNamed hd.ordinary, ih hdirs]
    rfl

/-- The patterns leave out exactly the paths that have one of the names as a component. -/
def Omits (gs : List Glob) (dirs : List String) : Prop :=
  ∀ names : List String, names ≠ [] → (∀ name ∈ names, Tree.isName name = true) →
    (isExcluded gs (some (names.map String.toList)) = true ↔ ∃ name ∈ names, name ∈ dirs)

theorem omits_flatMap {dirs : List String} (h : ∀ d ∈ dirs, Glob.Nameable d) :
    Omits (dirs.flatMap fun d => [Glob.named d, Glob.belowNamed d]) dirs := by
  intro names hne hnames
  have hpieces : ∀ piece ∈ names.map String.toList, '/' ∉ piece := by
    intro piece hpiece
    obtain ⟨name, hname, rfl⟩ := List.mem_map.1 hpiece
    exact Tree.slash_notMem_of_isName (hnames name hname)
  have hne' : names.map String.toList ≠ [] := by simpa using hne
  have hname : ∀ d ∈ dirs, ((Glob.named d).isMatch
        (utf8 (['/'].intercalate (names.map String.toList))) = true ∨
      (Glob.belowNamed d).isMatch
        (utf8 (['/'].intercalate (names.map String.toList))) = true) ↔ d ∈ names := by
    intro d hd
    rw [Glob.isMatch_either_iff (h d hd) hpieces hne', List.mem_map]
    constructor
    · rintro ⟨name, hmem, htext⟩
      exact String.toList_inj.1 htext ▸ hmem
    · intro hmem
      exact ⟨d, hmem, rfl⟩
  rw [isExcluded, List.any_eq_true]
  constructor
  · rintro ⟨g, hg, hmatch⟩
    obtain ⟨d, hd, hg⟩ := List.mem_flatMap.1 hg
    refine ⟨d, (hname d hd).1 ?_, hd⟩
    simp only [List.mem_cons, List.not_mem_nil, or_false] at hg
    rcases hg with rfl | rfl
    · exact Or.inl hmatch
    · exact Or.inr hmatch
  · rintro ⟨d, hmem, hd⟩
    rcases (hname d hd).2 hmem with hmatch | hmatch
    · exact ⟨_, List.mem_flatMap.2 ⟨d, hd, by simp⟩, hmatch⟩
    · exact ⟨_, List.mem_flatMap.2 ⟨d, hd, by simp⟩, hmatch⟩

theorem nameable_excludedDirs : ∀ d ∈ Policy.excludedDirs, Glob.Nameable d := by
  have hall : Policy.excludedDirs.all (fun d =>
      d.toList ≠ [] && d.toList.all Glob.isOrdinary && !d.toList.contains '/' &&
        (utf8 d.toList).getLast? ≠ some 46) = true := by
    decide +kernel
  intro d hd
  have hchecks := List.all_eq_true.1 hall d hd
  simp only [Bool.and_eq_true, decide_eq_true_eq, Bool.not_eq_true', List.contains_eq_mem,
    decide_eq_false_iff_not, List.all_eq_true] at hchecks
  obtain ⟨⟨⟨hnonempty, hordinary⟩, hwhole⟩, hlast⟩ := hchecks
  exact ⟨hnonempty, hordinary, hwhole, hlast⟩

/-- Whatever the roots are, the files of a directory can be listed. -/
theorem exists_files (t : Tree) (cwd : Path) (roots : List String) :
    ∃ gs, Omits gs Policy.excludedDirs ∧ Scan.files t cwd (Policy.ofRoots roots)
      = .ok (inOrder (roots.flatMap (ofRoot t gs cwd))) := by
  refine ⟨_, omits_flatMap nameable_excludedDirs, ?_⟩
  have hglobs := globs_flatMap nameable_excludedDirs cwd
  simp only [Scan.files, Policy.ofRoots, hglobs]
  rfl

/-! ## The walk -/

section

variable {gs : List Glob} {dirs : List String} {path : Path}

theorem mem_walkEntries {base : Path} {pieces : Option (List (List Char))}
    {entries : List (String × Tree)} : path ∈ walkEntries gs base pieces entries ↔
      ∃ e ∈ entries, path ∈ walk gs (base.child e.1) (pieces.map (· ++ [e.1.toList])) e.2 := by
  induction entries with
  | nil => simp [walkEntries]
  | cons e entries ih =>
    obtain ⟨name, t⟩ := e
    simp [walkEntries, ih]

theorem walk_of_isExcluded {pieces : Option (List (List Char))} (h : isExcluded gs pieces = true)
    (base : Path) (node : Tree) : walk gs base pieces node = [] := by
  cases node <;> rw [walk, if_pos h]

/-- **From a place that is not left out, a walk finds the files that have no excluded name on the way
    down.** -/
theorem mem_walk (hgs : Omits gs dirs) {node : Tree} (hformed : node.wellFormed = true)
    (hnamed : node.wellNamed = true) {base : Path} {front : List String} (hne : front ≠ [])
    (hfront : ∀ name ∈ front, Tree.isName name = true) (hkept : ∀ name ∈ front, name ∉ dirs) :
    path ∈ walk gs base (some (front.map String.toList)) node ↔
      ∃ names content, node.get? names = some (.file content) ∧ path = base.below names ∧
        ∀ name ∈ names, name ∉ dirs := by
  have hin : ¬ isExcluded gs (some (front.map String.toList)) = true := by
    rw [hgs front hne hfront]
    rintro ⟨name, hmem, hdir⟩
    exact hkept name hmem hdir
  induction node using Tree.induction generalizing base front with
  | hfile c =>
    rw [walk, if_neg hin, List.mem_singleton]
    constructor
    · rintro rfl
      exact ⟨[], c, rfl, rfl, by simp⟩
    · rintro ⟨names, content, hget, rfl, -⟩
      -- a file has nothing below it
      cases names with
      | nil => rfl
      | cons name names => cases hget
  | hdir entries ih =>
    obtain ⟨hnodup, hformed⟩ := (Tree.wellFormed_dir_iff entries).1 hformed
    have hnames := (Tree.wellNamed_dir_iff entries).1 hnamed
    -- one step down, the name of the entry is one more on the way
    have hpieces : ∀ name : String, (some (front.map String.toList)).map (· ++ [name.toList])
        = some ((front ++ [name]).map String.toList) := by
      simp
    have hfront' : ∀ e ∈ entries, ∀ name ∈ front ++ [e.1], Tree.isName name = true := fun e he =>
      List.forall_mem_append.2 ⟨hfront, List.forall_mem_singleton.2 (hnames e he).1⟩
    have hexcluded : ∀ e ∈ entries,
        isExcluded gs (some ((front ++ [e.1]).map String.toList)) = true ↔ e.1 ∈ dirs := by
      intro e he
      rw [hgs _ (by simp) (hfront' e he)]
      simp only [List.mem_append, List.mem_singleton, or_and_right, exists_or, exists_eq_left]
      exact or_iff_right fun ⟨name, hmem, hdir⟩ => hkept name hmem hdir
    have hstep : ∀ e ∈ entries, e.1 ∉ dirs →
        (path ∈ walk gs (base.child e.1) (some ((front ++ [e.1]).map String.toList)) e.2 ↔
          ∃ names content, e.2.get? names = some (.file content) ∧
            path = (base.child e.1).below names ∧ ∀ name ∈ names, name ∉ dirs) := by
      intro e he hname
      exact ih e he (hformed e he) (hnames e he).2 (by simp) (hfront' e he)
        (List.forall_mem_append.2 ⟨hkept, List.forall_mem_singleton.2 hname⟩)
        (fun hout => hname ((hexcluded e he).1 hout))
    rw [walk, if_neg hin, mem_walkEntries]
    simp only [hpieces]
    constructor
    · rintro ⟨e, he, hpath⟩
      by_cases hname : e.1 ∈ dirs
      · rw [walk_of_isExcluded ((hexcluded e he).2 hname)] at hpath
        cases hpath
      · obtain ⟨names, content, hget, rfl, hnone⟩ := (hstep e he hname).1 hpath
        refine ⟨e.1 :: names, content, ?_, rfl, List.forall_mem_cons.2 ⟨hname, hnone⟩⟩
        rw [Tree.get?_dir_cons, Fields.get?_of_mem hnodup he, Option.bind_some, hget]
    · rintro ⟨names, content, hget, rfl, hnone⟩
      cases names with
      | nil => cases hget
      | cons name names =>
        rw [Tree.get?_dir_cons] at hget
        obtain ⟨child, hchild, hget⟩ := Option.bind_eq_some_iff.1 hget
        obtain ⟨hname, hnone⟩ := List.forall_mem_cons.1 hnone
        have he := Fields.mem_of_get? hchild
        exact ⟨(name, child), he, (hstep _ he hname).2 ⟨names, content, hget, rfl, hnone⟩⟩

theorem mem_ofRoot (hgs : Omits gs dirs) {t : Tree} (hformed : t.wellFormed = true)
    (hnamed : t.wellNamed = true) {cwd : Path} {root : String} (hroot : Tree.isName root = true)
    (hkept : root ∉ dirs) :
    path ∈ ofRoot t gs cwd root ↔ ∃ dir rest content, t.lookup cwd = some dir ∧
      dir.get? (root :: rest) = some (.file content) ∧ path = cwd.below (root :: rest) ∧
        ∀ name ∈ rest, name ∉ dirs := by
  have hstart : t.lookup (cwd.child root) = (t.lookup cwd).bind (Tree.get? · [root]) :=
    Tree.lookup_child_eq t cwd hroot
  -- the names below the root are looked up from what is there
  have hdown : ∀ (dir : Tree) (rest : List String),
      dir.get? (root :: rest) = (dir.get? [root]).bind (Tree.get? · rest) := fun dir rest =>
    Tree.get?_append dir [root] rest
  unfold ofRoot
  cases hnode : t.lookup (cwd.child root) with
  | none =>
    simp only [hnode, List.not_mem_nil, false_iff]
    rintro ⟨dir, rest, content, hcwd, hget, -⟩
    rw [hstart, hcwd, Option.bind_some] at hnode
    rw [hdown, hnode] at hget
    cases hget
  | some node =>
    obtain ⟨dir, hcwd, hchild⟩ := Option.bind_eq_some_iff.1 (hstart.symm.trans hnode)
    obtain ⟨place, hplace, -⟩ := Option.bind_eq_some_iff.1 hcwd
    have hpieces := Path.piecesBelow?_child (Tree.isAbsolute_of_place? hplace) hroot
    have hwalk : path ∈ walk gs (cwd.child root) (some ([root].map String.toList)) node ↔ _ :=
      mem_walk hgs (Tree.wellFormed_of_lookup hformed hnode) (Tree.wellNamed_of_lookup hnamed hnode)
        (List.cons_ne_nil root []) (List.forall_mem_singleton.2 hroot) (List.forall_mem_singleton.2 hkept)
    rw [List.map_singleton] at hwalk
    simp only [hnode, hpieces, hwalk]
    constructor
    · rintro ⟨rest, content, hget, hpath, hrest⟩
      exact ⟨dir, rest, content, hcwd, by rw [hdown, hchild, Option.bind_some, hget], hpath, hrest⟩
    · rintro ⟨dir', rest, content, hcwd', hget, hpath, hrest⟩
      obtain rfl : dir = dir' := Option.some.inj (hcwd.symm.trans hcwd')
      rw [hdown, hchild, Option.bind_some] at hget
      exact ⟨rest, content, hget, hpath, hrest⟩

end

/-! ## The order -/

theorem inOrder_pairwise (paths : List Path) :
    (inOrder paths).Pairwise fun p q => p.cmp q = .lt :=
  dropRepeats_pairwise_lt (fun _ _ => Path.same_iff)
    (sortBy_pairwise (fun _ _ => decide_eq_true_iff) paths)

theorem mem_inOrder {paths : List Path} (h : ∀ p ∈ paths, ∀ q ∈ paths, p.cmp q = .eq → p = q)
    {path : Path} : path ∈ inOrder paths ↔ path ∈ paths := by
  have hsorted : ∀ {p : Path},
      p ∈ sortBy (fun p q : Path => p.cmp q = .lt) paths ↔ p ∈ paths := mem_sortBy
  constructor
  · intro hmem
    exact hsorted.1 (mem_of_mem_dropRepeats hmem)
  · intro hmem
    have hequal : ∀ p q : Path, p.same q = true ↔ p.cmp q = .eq := fun _ _ => Path.same_iff
    obtain ⟨kept, hkept, hsame⟩ := exists_mem_dropRepeats hequal (hsorted.2 hmem)
    rwa [h path hmem kept (hsorted.1 (mem_of_mem_dropRepeats hkept)) hsame]

/-! ## Candidates -/

/-- The candidate files of a directory: at or below a root, with no excluded name on the way. -/
def Candidate (t : Tree) (cwd : Path) (policy : Policy) (path : Path) : Prop :=
  ∃ dir root rest content, t.lookup cwd = some dir ∧ root ∈ policy.roots ∧
    dir.get? (root :: rest) = some (.file content) ∧ path = cwd.below (root :: rest) ∧
      ∀ name ∈ root :: rest, name ∉ Policy.excludedDirs

theorem Candidate.eq_of_cmp {t : Tree} (hnamed : t.wellNamed = true) {cwd : Path} {policy : Policy}
    {p q : Path} (hp : Candidate t cwd policy p) (hq : Candidate t cwd policy q)
    (h : p.cmp q = .eq) : p = q := by
  obtain ⟨dir, root, rest, content, hcwd, -, hget, rfl, -⟩ := hp
  obtain ⟨dir', root', rest', content', hcwd', -, hget', rfl, -⟩ := hq
  obtain ⟨place, hplace, -⟩ := Option.bind_eq_some_iff.1 hcwd
  have hdir := Tree.wellNamed_of_lookup hnamed hcwd
  have hdir' := Tree.wellNamed_of_lookup hnamed hcwd'
  rw [Path.below_of_cmp_eq (Tree.isAbsolute_of_place? hplace) (Tree.isName_of_get? hdir hget)
    (Tree.isName_of_get? hdir' hget') h]

/-- Roots that a scan may start from. -/
def Rooted (policy : Policy) : Prop :=
  ∃ roots, policy = .ofRoots roots ∧ manifestFile ∈ roots ∧
    ∀ root ∈ roots, Tree.isName root = true ∧ root ∉ Policy.excludedDirs

theorem rooted_of_mem {policy : Policy} (h : policy ∈ [Policy.application, Policy.plugin]) :
    Rooted policy := by
  rw [List.mem_cons, List.mem_singleton] at h
  rcases h with rfl | rfl
  · exact ⟨Policy.application.roots, rfl, by decide +kernel⟩
  · exact ⟨Policy.plugin.roots, rfl, by decide +kernel⟩

theorem rooted_policy (kind : ProjectKind) : Rooted kind.policy :=
  rooted_of_mem kind.policy_mem

/-- **The files of a directory are its candidates, in the order of paths.** -/
theorem files_eq_ok {t : Tree} (hformed : t.wellFormed = true) (hnamed : t.wellNamed = true)
    (cwd : Path) {policy : Policy} (hpolicy : Rooted policy) :
    ∃ files, Scan.files t cwd policy = .ok files ∧
      (∀ path, path ∈ files ↔ Candidate t cwd policy path) ∧
        files.Pairwise fun p q => p.cmp q = .lt := by
  obtain ⟨roots, rfl, -, hroots⟩ := hpolicy
  obtain ⟨gs, hgs, hfiles⟩ := exists_files t cwd roots
  have hfound : ∀ path, path ∈ roots.flatMap (ofRoot t gs cwd) ↔
      Candidate t cwd (.ofRoots roots) path := by
    intro path
    rw [List.mem_flatMap]
    constructor
    · rintro ⟨root, hmem, hpath⟩
      obtain ⟨hname, hkept⟩ := hroots root hmem
      obtain ⟨dir, rest, content, hcwd, hget, rfl, hrest⟩ :=
        (mem_ofRoot hgs hformed hnamed hname hkept).1 hpath
      exact ⟨dir, root, rest, content, hcwd, hmem, hget, rfl, List.forall_mem_cons.2 ⟨hkept, hrest⟩⟩
    · rintro ⟨dir, root, rest, content, hcwd, hmem, hget, rfl, hnames⟩
      obtain ⟨hkept, hrest⟩ := List.forall_mem_cons.1 hnames
      exact ⟨root, hmem, (mem_ofRoot hgs hformed hnamed (hroots root hmem).1 hkept).2
        ⟨dir, rest, content, hcwd, hget, rfl, hrest⟩⟩
  refine ⟨_, hfiles, ?_, inOrder_pairwise _⟩
  intro path
  rw [mem_inOrder, hfound]
  intro p hp q hq hsame
  exact Candidate.eq_of_cmp hnamed ((hfound p).1 hp) ((hfound q).1 hq) hsame

/-- Listed files are different files, whatever becomes of the disk. -/
theorem files_apart {t : Tree} (hformed : t.wellFormed = true) (hnamed : t.wellNamed = true)
    {cwd : Path} {policy : Policy} (hpolicy : Rooted policy) {files : List Path}
    (h : Scan.files t cwd policy = .ok files) :
    files.Pairwise fun p q => ∀ t' : Tree, ¬ t'.SameFile p q := by
  obtain ⟨files', hfiles, hcandidates, horder⟩ := files_eq_ok hformed hnamed cwd hpolicy
  obtain rfl : files = files' := Except.ok.inj (h.symm.trans hfiles)
  have hbelow : ∀ p ∈ files, ∃ names, (∀ name ∈ names, Tree.isName name = true) ∧
      p = cwd.below names := by
    intro p hp
    obtain ⟨dir, root, rest, content, hcwd, -, hget, rfl, -⟩ := (hcandidates p).1 hp
    exact ⟨_, Tree.isName_of_get? (Tree.wellNamed_of_lookup hnamed hcwd) hget, rfl⟩
  refine horder.imp_of_mem fun {p q} hp hq hlt t' hsame => ?_
  obtain ⟨names, hnames, rfl⟩ := hbelow p hp
  obtain ⟨names', hnames', rfl⟩ := hbelow q hq
  obtain ⟨hfile, hplaces⟩ := hsame
  obtain ⟨place, hplace, -⟩ := Tree.isFile_iff.1 hfile
  -- one place means the same names, and a path does not come before itself
  obtain rfl := Tree.place?_below_inj hnames hnames' hplace (hplaces.symm.trans hplace)
  rw [Path.cmp_eq_eq_iff.2 rfl] at hlt
  cases hlt

theorem Candidate.of_read {t : Tree} {cwd : Path} {policy : Policy} (hpolicy : Rooted policy)
    {m : Json} (hread : Manifest.read t (cwd.child manifestFile) = .ok m) :
    Candidate t cwd policy (cwd.child manifestFile) := by
  obtain ⟨roots, rfl, hmem, hroots⟩ := hpolicy
  obtain ⟨hname, hkept⟩ := hroots _ hmem
  obtain ⟨-, text, htext, -⟩ := Manifest.read_eq_ok hread
  obtain ⟨place, hplace, hfile⟩ := Tree.exists_of_readText htext
  have hlookup : t.lookup (cwd.child manifestFile) = some (.file (.text text)) := by
    rw [Tree.lookup, hplace, Option.bind_some, Tree.content?_eq_some_iff.1 hfile]
  rw [Tree.lookup_child_eq t cwd hname] at hlookup
  obtain ⟨dir, hcwd, hget⟩ := Option.bind_eq_some_iff.1 hlookup
  exact ⟨dir, manifestFile, [], .text text, hcwd, hmem, hget, rfl, List.forall_mem_singleton.2 hkept⟩

/-- **A scan lists exactly the candidates, each once and in order, and a project that was loaded or
    refreshed from a disk has its manifest among them.** -/
theorem files_exact {t : Tree} (hformed : t.wellFormed = true) (hnamed : t.wellNamed = true) :
    (∀ cwd : Path, ∀ policy ∈ [Policy.application, Policy.plugin],
      ∃ files, Scan.files t cwd policy = .ok files ∧
        (∀ path, path ∈ files ↔ Candidate t cwd policy path) ∧
          files.Pairwise fun p q => p.cmp q = .lt) ∧
    (∀ (cwd : Path) (f : Framework) (p : Project), Project.load t cwd f = .ok p →
      p.manifestPath ∈ p.files) ∧
    (∀ p p' : Project, p.Loaded → p.refresh t = (.ok (), p') → p'.manifestPath ∈ p'.files) := by
  -- a manifest that could be read is a candidate, hence listed
  have hmanifest : ∀ (cwd : Path) (kind : ProjectKind) (m : Json) (files : List Path),
      Manifest.read t (cwd.child manifestFile) = .ok m →
      Scan.files t cwd kind.policy = .ok files → cwd.child manifestFile ∈ files := by
    intro cwd kind m files hread hfiles
    have hpolicy := rooted_policy kind
    obtain ⟨files', hfiles', hcandidates, -⟩ := files_eq_ok hformed hnamed cwd hpolicy
    obtain rfl : files = files' := Except.ok.inj (hfiles.symm.trans hfiles')
    exact (hcandidates _).2 (Candidate.of_read hpolicy hread)
  refine ⟨?_, ?_, ?_⟩
  · intro cwd policy hpolicy
    exact files_eq_ok hformed hnamed cwd (rooted_of_mem hpolicy)
  · intro cwd f p hload
    obtain ⟨m, kind, files, hread, -, hfiles, rfl⟩ := Project.load_eq_ok hload
    exact hmanifest cwd kind m files hread hfiles
  · intro p p' hp hrefresh
    obtain ⟨hread, hfiles⟩ := Project.refresh_eq_ok hrefresh
    obtain ⟨-, -, hpath, -⟩ := Project.refresh_frame hrefresh
    rw [hp.manifestPath_eq] at hread hpath
    rw [hpath]
    exact hmanifest p.cwd p.kind _ _ hread hfiles

/-- A project with a file and directories that are left out, names that only look like theirs, a root
    that is a file where a directory is usual, and one that is a directory where a file is. -/
def cluttered : Tree := .dir [("app", .dir [
  ("tsconfig.json", .dir [("base.json", .file (.text ""))]),
  ("src", .dir [
    ("index.ts", .file (.text "")),
    ("dist", .file (.text "")),
    ("distribution", .dir [("a.ts", .file (.text "")), ("b.ts", .file (.raw [255]))]),
    ("build.ts", .file (.text "")),
    ("build", .dir [("deep", .dir [("out.js", .file (.text ""))])])]),
  ("config", .file (.text "")),
  ("package.json", .file (.text "\x7b\"dependencies\":\x7b\"@acme/core\":\"5.0.0\"\x7d\x7d")),
  ("README.md", .file (.text "")),
  ("node_modules", .dir [("left", .dir [("index.js", .file (.text ""))])])])]

/-- What is listed of it as an application, and as one that is loaded and refreshed. -/
theorem files_exact_cluttered :
    cluttered.wellFormed = true ∧ cluttered.wellNamed = true ∧
      Scan.files cluttered ⟨"/app"⟩ .application = .ok [⟨"/app/config"⟩, ⟨"/app/package.json"⟩,
        ⟨"/app/src/build.ts"⟩, ⟨"/app/src/distribution/a.ts"⟩, ⟨"/app/src/distribution/b.ts"⟩,
        ⟨"/app/src/index.ts"⟩, ⟨"/app/tsconfig.json/base.json"⟩] ∧
      Candidate cluttered ⟨"/app"⟩ .application ⟨"/app/src/build.ts"⟩ ∧
      ¬ Candidate cluttered ⟨"/app"⟩ .application ⟨"/app/src/build/deep/out.js"⟩ ∧
      ∃ p p', Project.load cluttered ⟨"/app"⟩ ⟨"@acme/core"⟩ = .ok p ∧
        p.refresh cluttered = (.ok (), p') ∧ p.manifestPath ∈ p.files ∧
        p'.manifestPath ∈ p'.files := by
  have hformed : cluttered.wellFormed = true := by decide +kernel
  have hnamed : cluttered.wellNamed = true := by decide +kernel
  obtain ⟨hscan, hload, hrefresh⟩ := files_exact hformed hnamed
  obtain ⟨files, hfiles, hcandidates, -⟩ := hscan ⟨"/app"⟩ .application List.mem_cons_self
  have hlisted : (Scan.files cluttered ⟨"/app"⟩ .application).toOption = some [⟨"/app/config"⟩,
      ⟨"/app/package.json"⟩, ⟨"/app/src/build.ts"⟩, ⟨"/app/src/distribution/a.ts"⟩,
      ⟨"/app/src/distribution/b.ts"⟩, ⟨"/app/src/index.ts"⟩, ⟨"/app/tsconfig.json/base.json"⟩] := by
    decide +kernel
  have hlisted := eq_ok_of_toOption hlisted
  obtain rfl := Except.ok.inj (hlisted.symm.trans hfiles)
  have hproject : (Project.load cluttered ⟨"/app"⟩ ⟨"@acme/core"⟩).toOption.any (fun p =>
      decide ((p.refresh cluttered).1.toOption = some ())) = true := by
    decide +kernel
  obtain ⟨p, hp, hagain⟩ := (Option.any_eq_true _ _).1 hproject
  have hp := eq_ok_of_toOption hp
  have hagain : p.refresh cluttered = (.ok (), (p.refresh cluttered).2) :=
    Prod.ext (eq_ok_of_toOption (of_decide_eq_true hagain)) rfl
  refine ⟨hformed, hnamed, hfiles, (hcandidates _).1 (by decide), ?_, p, _, hp, hagain,
    hload _ _ p hp, hrefresh p _ (.load hp) hagain⟩
  rw [← hcandidates]
  decide

end Scan

end Uplift
