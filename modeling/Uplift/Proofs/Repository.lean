import Uplift.Proofs.Codemod
import Uplift.Proofs.Tree
import Uplift.Proofs.Version.Order
import Uplift.Proofs.Wildcard
import Uplift.Repository

set_option autoImplicit false

/-! # Loaded repositories

A refresh forgets all codemods, looks for version directories and takes them in one after the other. A
directory that could not be listed would end it with a part of them. There is none: directories are
listed by a pattern, and the pattern of a directory is always one (`codemodsAt_eq`). So a refresh that
fails has taken in nothing (`refresh_cases`), and what is there after a refresh does not depend on what
was there before (`refresh_eq`).

A repository that was loaded from a disk lists its codemods in strictly ascending order, by version
and within a version by file name. Both rest on a disk having each name once in a directory: for
versions, because a version has one text; for codemods, because their file names are the names in the
directory.

So the codemods of a range, which are sorted once more before they are run, are all codemods of the
repository whose version is in the range, in the order in which they are listed
(`flattenAscending_inRange`). -/

namespace Uplift

open Std

/-- The order in which codemods are run: by version, then by file name. -/
def Codemod.order (a b : Codemod) : Ordering :=
  (a.version.order b.version).then (compare a.filename b.filename)

theorem Codemod.order_eq_lt_iff {a b : Codemod} : a.order b = .lt ↔ a.version.order b.version = .lt ∨
    a.version = b.version ∧ compare a.filename b.filename = .lt := by
  rw [order, Ordering.then_eq_lt, LawfulEqCmp.compare_eq_iff_eq]

theorem Codemod.order_self (a : Codemod) : a.order a = .eq := by
  have hfilename : compare a.filename a.filename = .eq := ReflCmp.compare_self
  rw [order, Version.order_self, hfilename]
  rfl

theorem Collection.flatten_filter {collections : List Collection}
    (hown : ∀ c ∈ collections, ∀ m ∈ c.codemods, m.version = c.version) (keep : Version → Bool) :
    flatten (collections.filter fun c => keep c.version)
      = (flatten collections).filter fun m => keep m.version := by
  induction collections with
  | nil => rfl
  | cons c cs ih =>
    simp only [List.mem_cons, forall_eq_or_imp] at hown
    obtain ⟨hc, hcs⟩ := hown
    have ih := ih hcs
    simp only [flatten, List.flatMap_cons, List.filter_append] at ih ⊢
    rw [← ih, List.filter_cons]
    -- all codemods of the collection are kept, or none
    cases hkeep : keep c.version with
    | true =>
      have hall : c.codemods.filter (fun m => keep m.version) = c.codemods :=
        List.filter_eq_self.2 fun m hm => by rw [hc m hm, hkeep]
      rw [hall]
      rfl
    | false =>
      have hnone : c.codemods.filter (fun m => keep m.version) = [] :=
        List.filter_eq_nil_iff.2 fun m hm => by rw [hc m hm, hkeep]; exact Bool.false_ne_true
      rw [hnone]
      rfl

instance : TransCmp fun c d : Collection => c.version.order d.version :=
  transCmp_on Version.order Collection.version

/-- Collections with versions ascending are taken one after the other. -/
theorem Collection.flattenAscending_of_pairwise {collections : List Collection}
    (h : collections.Pairwise fun c d => (c.version.order d.version).isLE = true) :
    flattenAscending collections = flatten collections := by
  have hsorted : Version.sortOn Collection.version collections = collections := by
    refine sortBy_eq_self (h.imp fun {c d} hcd => ?_)
    have hdc : d.version.order c.version ≠ .lt := fun hdc => by
      rw [OrientedCmp.gt_of_lt hdc] at hcd
      cases hcd
    exact decide_eq_false hdc
  rw [flattenAscending, hsorted]

theorem Collection.flattenAscending_of_lt {collections : List Collection}
    (h : collections.Pairwise fun c d => c.version.order d.version = .lt) :
    flattenAscending collections = flatten collections := by
  refine flattenAscending_of_pairwise (h.imp fun {c d} hcd => ?_)
  rw [hcd]
  rfl

/-! ## Insertion -/

namespace Collection

theorem mem_of_mem_insert {c d : Collection} {cs : List Collection} (h : d ∈ insert c cs) :
    d = c ∨ d ∈ cs := by
  induction cs with
  | nil => exact Or.inl (List.mem_singleton.1 h)
  | cons e rest ih =>
    rw [insert] at h
    split at h
    · exact List.mem_cons.1 h
    · exact (List.mem_cons.1 h).imp id (List.mem_cons_of_mem e)
    · rcases List.mem_cons.1 h with rfl | h
      · exact Or.inr List.mem_cons_self
      · exact (ih h).imp id (List.mem_cons_of_mem e)

theorem insert_ne_nil (c : Collection) (cs : List Collection) : insert c cs ≠ [] := by
  cases cs with
  | nil => exact List.cons_ne_nil c []
  | cons d rest =>
    rw [insert]
    split <;> exact List.cons_ne_nil _ _

theorem insert_pairwise (c : Collection) {cs : List Collection}
    (h : cs.Pairwise fun c d => c.version.order d.version = .lt) :
    (insert c cs).Pairwise fun c d => c.version.order d.version = .lt := by
  induction cs with
  | nil => exact List.pairwise_singleton _ c
  | cons d rest ih =>
    obtain ⟨hd, hrest⟩ := List.pairwise_cons.1 h
    rw [insert]
    split
    · rename_i hcd
      refine List.pairwise_cons.2 ⟨fun e he => ?_, h⟩
      rcases List.mem_cons.1 he with rfl | he
      · exact hcd
      · exact TransCmp.lt_trans hcd (hd e he)
    · rename_i hcd
      exact List.pairwise_cons.2 ⟨fun e he => TransCmp.lt_of_eq_of_lt hcd (hd e he), hrest⟩
    · rename_i hcd
      refine List.pairwise_cons.2 ⟨fun e he => ?_, ih hrest⟩
      rcases mem_of_mem_insert he with rfl | he
      · exact OrientedCmp.gt_iff_lt.1 hcd
      · exact hd e he

theorem insert_of_forall_lt {c : Collection} {cs : List Collection}
    (h : ∀ d ∈ cs, d.version.order c.version = .lt) : insert c cs = cs ++ [c] := by
  induction cs with
  | nil => rfl
  | cons d rest ih =>
    obtain ⟨hd, hrest⟩ := List.forall_mem_cons.1 h
    rw [insert, OrientedCmp.gt_iff_lt.2 hd, ih hrest]
    rfl

end Collection

/-- What a repository is that was loaded from a disk. -/
structure Repository.Listed (r : Repository) : Prop where
  /-- Versions ascend. -/
  versions : r.collections.Pairwise fun c d => c.version.order d.version = .lt
  /-- A collection holds codemods of its version. -/
  own : ∀ c ∈ r.collections, ∀ m ∈ c.codemods, m.version = c.version
  /-- File names ascend within a version. -/
  filenames : ∀ c ∈ r.collections,
    c.codemods.Pairwise fun a b => compare a.filename b.filename = .lt

namespace Repository

/-! ## Loading -/

theorem codemodOf?_eq_some_iff {v : Version} {dir : Path} {entry : String × Tree} {m : Codemod} :
    codemodOf? v dir entry = some m ↔ ∃ f content, FileName.Proper f ∧
      entry = (f.text, .file content) ∧ m = ⟨f.kind, v, dir, f.text⟩ := by
  obtain ⟨name, node⟩ := entry
  cases node with
  | dir entries => simp [codemodOf?]
  | file content =>
    rw [codemodOf?, Option.map_eq_some_iff]
    constructor
    · rintro ⟨f, hread, rfl⟩
      obtain ⟨hproper, rfl⟩ := FileName.read?_eq_some hread
      exact ⟨f, content, hproper, rfl, rfl⟩
    · rintro ⟨f, content', hproper, hentry, rfl⟩
      obtain ⟨rfl, -⟩ := Prod.mk.inj hentry
      exact ⟨f, FileName.read?_text hproper, rfl⟩

theorem mem_codemodsIn {v : Version} {dir : Path} {files : List (String × Tree)} {m : Codemod} :
    m ∈ codemodsIn v dir files ↔ ∃ f content, FileName.Proper f ∧ (f.text, .file content) ∈ files ∧
      m = ⟨f.kind, v, dir, f.text⟩ := by
  rw [codemodsIn, mem_sortBy, List.mem_filterMap]
  constructor
  · rintro ⟨entry, hentry, hm⟩
    obtain ⟨f, content, hproper, rfl, rfl⟩ := codemodOf?_eq_some_iff.1 hm
    exact ⟨f, content, hproper, hentry, rfl⟩
  · rintro ⟨f, content, hproper, hentry, rfl⟩
    exact ⟨_, hentry, codemodOf?_eq_some_iff.2 ⟨f, content, hproper, rfl, rfl⟩⟩

theorem version_of_mem_codemodsIn {v : Version} {dir : Path} {entries : List (String × Tree)}
    {m : Codemod} (h : m ∈ codemodsIn v dir entries) : m.version = v := by
  obtain ⟨f, content, -, -, rfl⟩ := mem_codemodsIn.1 h
  rfl

theorem codemodsIn_pairwise (v : Version) (dir : Path) {entries : List (String × Tree)}
    (h : (Fields.keys entries).Nodup) :
    (codemodsIn v dir entries).Pairwise fun a b => compare a.filename b.filename = .lt := by
  have : TransCmp fun a b : Codemod => compare a.filename b.filename :=
    transCmp_on compare Codemod.filename
  refine sortBy_pairwise_lt (fun a b => by simp) (List.pairwise_filterMap.2 ?_)
  refine (List.pairwise_map.1 h).imp fun {e e'} hne a ha b hb heq => hne ?_
  obtain ⟨f, content, -, rfl, rfl⟩ := codemodOf?_eq_some_iff.1 ha
  obtain ⟨g, content', -, rfl, rfl⟩ := codemodOf?_eq_some_iff.1 hb
  exact LawfulEqCmp.eq_of_compare heq

theorem filePattern_eq (dir : Path) : filePattern dir
    = String.ofList (Wildcard.escape dir.text.toList ++ '/' :: ['*', '.', '*', '.', '*']) := by
  rw [String.ofList_append]
  rfl

/-- **A version directory can always be listed**, and its codemods are the files with a codemod's name. -/
theorem codemodsAt_eq (v : Version) (dir : Path) (entries : List (String × Tree)) :
    codemodsAt v dir entries = .ok (codemodsIn v dir entries) := by
  obtain ⟨pattern, hread, hlast⟩ := Wildcard.exists_read_escape (by decide)
    (show Wildcard.tokens ['*', '.', '*', '.', '*']
      = .ok [.many, .char '.', .many, .char '.', .many] from rfl)
    (fun n before => ⟨_, rfl⟩) dir.text.toList
  have hlists : ∀ e ∈ entries, (codemodOf? v dir e).isSome → pattern.lists e.1 = true := by
    intro e _ hsome
    obtain ⟨m, hm⟩ := Option.isSome_iff_exists.1 hsome
    obtain ⟨f, content, -, rfl, -⟩ := codemodOf?_eq_some_iff.1 hm
    simp only [Wildcard.lists, hlast, FileName.toList_text, List.append_assoc, List.cons_append]
    exact Wildcard.accepts_dotted _ _ _
  have hfilter : (entries.filter fun e => pattern.lists e.1).filterMap (codemodOf? v dir)
      = entries.filterMap (codemodOf? v dir) := by
    rw [List.filterMap_filter]
    refine List.filterMap_congr fun e he => ?_
    cases hm : codemodOf? v dir e with
    | none => simp
    | some m => simp [hlists e he (by simp [hm])]
  rw [codemodsAt, filePattern_eq, hread]
  simp only [codemodsIn, hfilter]

theorem shelfOf?_eq_some_iff {root : Path} {entry : String × Tree} {s : Shelf} :
    shelfOf? root entry = some s ↔ ∃ v files, entry = (v.text, .dir files) ∧
      s = ⟨v, root.child v.text, files⟩ := by
  obtain ⟨name, node⟩ := entry
  cases node with
  | file content => simp [shelfOf?]
  | dir files =>
    rw [shelfOf?, Option.map_eq_some_iff]
    constructor
    · rintro ⟨v, hread, rfl⟩
      obtain rfl := Version.text_of_read? hread
      exact ⟨v, files, rfl, rfl⟩
    · rintro ⟨v, files', hentry, rfl⟩
      obtain ⟨rfl, hdir⟩ := Prod.mk.inj hentry
      obtain rfl := Tree.dir.inj hdir
      exact ⟨v, Version.read?_text v, rfl⟩

/-! ## Filling -/

/-- The collection of a version directory. -/
def Shelf.collection (s : Shelf) : Collection := ⟨s.version, codemodsIn s.version s.dir s.entries⟩

/-- Collections after version directories were taken in, one after the other. -/
def gather (cs : List Collection) (shelves : List Shelf) : List Collection :=
  shelves.foldl (fun cs s => s.collection.insert cs) cs

theorem fill_eq (r : Repository) (shelves : List Shelf) :
    r.fill shelves = (.ok (), ⟨r.root, gather r.collections shelves⟩) := by
  induction shelves generalizing r with
  | nil => rfl
  | cons s rest ih =>
    rw [fill, codemodsAt_eq]
    exact ih _

theorem mem_of_mem_gather {cs : List Collection} {shelves : List Shelf} {c : Collection}
    (h : c ∈ gather cs shelves) : c ∈ cs ∨ ∃ s ∈ shelves, c = s.collection := by
  induction shelves generalizing cs with
  | nil => exact Or.inl h
  | cons s rest ih =>
    rcases ih h with h | ⟨s', hs', rfl⟩
    · rcases Collection.mem_of_mem_insert h with rfl | h
      · exact Or.inr ⟨s, List.mem_cons_self, rfl⟩
      · exact Or.inl h
    · exact Or.inr ⟨s', List.mem_cons_of_mem s hs', rfl⟩

theorem gather_pairwise {cs : List Collection}
    (h : cs.Pairwise fun c d => c.version.order d.version = .lt) (shelves : List Shelf) :
    (gather cs shelves).Pairwise fun c d => c.version.order d.version = .lt := by
  induction shelves generalizing cs with
  | nil => exact h
  | cons s rest ih => exact ih (Collection.insert_pairwise s.collection h)

/-- Directories that come with their versions in order are put at the end. -/
theorem gather_eq_append {cs : List Collection} {shelves : List Shelf}
    (hshelves : shelves.Pairwise fun s s' => s.version.order s'.version = .lt)
    (hcs : ∀ c ∈ cs, ∀ s ∈ shelves, c.version.order s.version = .lt) :
    gather cs shelves = cs ++ shelves.map Shelf.collection := by
  induction shelves generalizing cs with
  | nil => exact (List.append_nil cs).symm
  | cons s rest ih =>
    obtain ⟨hs, hrest⟩ := List.pairwise_cons.1 hshelves
    have hinsert : s.collection.insert cs = cs ++ [s.collection] :=
      Collection.insert_of_forall_lt fun c hc => hcs c hc s List.mem_cons_self
    have hstep : gather cs (s :: rest) = gather (cs ++ [s.collection]) rest :=
      congrArg (gather · rest) hinsert
    rw [hstep, ih hrest, List.append_assoc]
    · rfl
    · intro c hc s' hs'
      rcases List.mem_append.1 hc with hc | hc
      · exact hcs c hc s' (List.mem_cons_of_mem s hs')
      · rw [List.mem_singleton.1 hc]
        exact hs s' hs'

theorem gather_ne_nil {cs : List Collection} {shelves : List Shelf} (h : shelves ≠ []) :
    gather cs shelves ≠ [] := by
  have hkeep : ∀ (rest : List Shelf) {cs : List Collection}, cs ≠ [] → gather cs rest ≠ [] := by
    intro rest
    induction rest with
    | nil => exact fun hcs => hcs
    | cons s rest ih => exact fun _ => ih (Collection.insert_ne_nil _ _)
  cases shelves with
  | nil => exact absurd rfl h
  | cons s rest => exact hkeep rest (Collection.insert_ne_nil _ _)

/-! ## Refreshing -/

/-- The version directories among some entries, by version. -/
def shelves (root : Path) (entries : List (String × Tree)) : List Shelf :=
  Version.sortOn Shelf.version (entries.filterMap (shelfOf? root))

theorem mem_shelves_iff {root : Path} {entries : List (String × Tree)} {s : Shelf} :
    s ∈ shelves root entries ↔ ∃ v files, (v.text, .dir files) ∈ entries ∧
      s = ⟨v, root.child v.text, files⟩ := by
  rw [shelves, Version.sortOn, mem_sortBy, List.mem_filterMap]
  constructor
  · rintro ⟨entry, hentry, hs⟩
    obtain ⟨v, files, rfl, rfl⟩ := shelfOf?_eq_some_iff.1 hs
    exact ⟨v, files, hentry, rfl⟩
  · rintro ⟨v, files, hentry, rfl⟩
    exact ⟨_, hentry, shelfOf?_eq_some_iff.2 ⟨v, files, rfl, rfl⟩⟩

instance : TransCmp fun s s' : Shelf => s.version.order s'.version :=
  transCmp_on Version.order Shelf.version

/-- On a disk no two directories have the same version. -/
theorem shelves_pairwise (root : Path) {entries : List (String × Tree)}
    (h : (Fields.keys entries).Nodup) :
    (shelves root entries).Pairwise fun s s' => s.version.order s'.version = .lt := by
  refine sortBy_pairwise_lt (fun s s' => by simp) (List.pairwise_filterMap.2 ?_)
  refine (List.pairwise_map.1 h).imp fun {e e'} hne s hs s' hs' heq => hne ?_
  -- equal versions have equal texts, and these are the names
  obtain ⟨v, files, rfl, rfl⟩ := shelfOf?_eq_some_iff.1 hs
  obtain ⟨w, files', rfl, rfl⟩ := shelfOf?_eq_some_iff.1 hs'
  exact congrArg Version.text (LawfulEqCmp.eq_of_compare heq)

/-- **A refresh takes in all version directories, or fails with nothing taken in.** It fails where there
    is no version directory. -/
theorem refresh_cases (t : Tree) (r : Repository) :
    (∃ entries, t.lookup r.root = some (.dir entries) ∧ shelves r.root entries ≠ [] ∧
      refresh t r = (.ok (), ⟨r.root, gather [] (shelves r.root entries)⟩)) ∨
    (∃ e, (∀ entries, t.lookup r.root = some (.dir entries) → shelves r.root entries = []) ∧
      refresh t r = (.error e, { root := r.root })) := by
  by_cases hdir : ∃ entries, t.lookup r.root = some (.dir entries)
  · obtain ⟨entries, hlookup⟩ := hdir
    cases hfound : entries.filterMap (shelfOf? r.root) with
    | nil =>
      refine Or.inr ⟨.invalidRepository r.root .noVersions, fun entries' hlookup' => ?_, ?_⟩
      · obtain rfl : entries = entries' := by simpa [hlookup] using hlookup'
        rw [shelves, hfound]
        rfl
      · simp only [refresh, clear, hlookup, hfound]
    | cons s rest =>
      refine Or.inl ⟨entries, hlookup, ?_, ?_⟩
      · rw [shelves, hfound]
        exact fun hnil => nomatch ((sortBy_perm _ _).symm.trans (.of_eq hnil)).eq_nil
      · simp only [refresh, clear, hlookup, hfound]
        rw [shelves, hfound]
        exact fill_eq _ _
  · refine Or.inr ⟨.invalidRepository r.root .noDirectory,
      fun entries hlookup => absurd ⟨entries, hlookup⟩ hdir, ?_⟩
    simp only [refresh, clear]
    split
    · rename_i entries hlookup
      exact absurd ⟨entries, hlookup⟩ hdir
    · rfl

/-- A refresh leaves the repository that is loaded anew from the same place, or an empty one. -/
theorem refresh_eq (t : Tree) (r : Repository) : refresh t r = match load t r.root with
    | .ok fresh => (.ok (), fresh)
    | .error e => (.error e, { root := r.root }) := by
  -- what is there before is forgotten
  have hclear : refresh t r = refresh t { root := r.root } := rfl
  rw [hclear, load]
  rcases refresh_cases t { root := r.root } with ⟨entries, -, -, hrefresh⟩ | ⟨e, -, hrefresh⟩
  · rw [hrefresh]
  · rw [hrefresh]

theorem refresh_eq_ok_iff {t : Tree} {r : Repository} :
    (refresh t r).1 = .ok () ↔ ∃ fresh, load t r.root = .ok fresh := by
  rw [refresh_eq]
  cases load t r.root <;> simp

theorem refresh_eq_error_iff {t : Tree} {r : Repository} {e : Error} :
    (refresh t r).1 = .error e ↔ load t r.root = .error e := by
  rw [refresh_eq]
  cases load t r.root <;> simp

theorem load_of_refresh {t : Tree} {r r' : Repository} (h : refresh t r = (.ok (), r')) :
    load t r.root = .ok r' := by
  obtain ⟨fresh, hload⟩ := refresh_eq_ok_iff.1 (congrArg Prod.fst h)
  rw [refresh_eq, hload] at h
  obtain ⟨-, rfl⟩ := Prod.mk.inj h
  exact hload

/-! ## What was loaded -/

section

variable {t : Tree} {root : Path} {r : Repository}

/-- Loading succeeds exactly if there is a version directory, and takes in all of them. -/
theorem load_eq_ok_iff : load t root = .ok r ↔ ∃ entries, t.lookup root = some (.dir entries) ∧
    shelves root entries ≠ [] ∧ r = ⟨root, gather [] (shelves root entries)⟩ := by
  rw [load]
  rcases refresh_cases t { root } with ⟨entries, hlookup, hne, hrefresh⟩ | ⟨e, hnone, hrefresh⟩
  · rw [hrefresh]
    constructor
    · intro h
      exact ⟨entries, hlookup, hne, (Except.ok.inj h).symm⟩
    · rintro ⟨entries', hlookup', -, rfl⟩
      obtain rfl : entries = entries' := by simpa [hlookup] using hlookup'
      rfl
  · rw [hrefresh]
    constructor
    · intro h
      cases h
    · rintro ⟨entries, hlookup, hne, -⟩
      exact absurd (hnone entries hlookup) hne

theorem root_of_load (h : load t root = .ok r) : r.root = root := by
  obtain ⟨entries, -, -, rfl⟩ := load_eq_ok_iff.1 h
  rfl

theorem collections_ne_nil_of_load (h : load t root = .ok r) : r.collections ≠ [] := by
  obtain ⟨entries, -, hne, rfl⟩ := load_eq_ok_iff.1 h
  exact gather_ne_nil hne

/-- A collection that was loaded is that of a directory right below the root. -/
theorem exists_dir_of_load (h : load t root = .ok r) {c : Collection} (hc : c ∈ r.collections) :
    ∃ entries v files, t.lookup root = some (.dir entries) ∧ (v.text, .dir files) ∈ entries ∧
      c = ⟨v, codemodsIn v (root.child v.text) files⟩ := by
  obtain ⟨entries, hlookup, -, rfl⟩ := load_eq_ok_iff.1 h
  rcases mem_of_mem_gather hc with hc | ⟨s, hs, rfl⟩
  · cases hc
  · obtain ⟨v, files, hentry, rfl⟩ := mem_shelves_iff.1 hs
    exact ⟨entries, v, files, hlookup, hentry, rfl⟩

theorem version_of_mem_of_load (h : load t root = .ok r) {c : Collection} (hc : c ∈ r.collections)
    {m : Codemod} (hm : m ∈ c.codemods) : m.version = c.version := by
  obtain ⟨entries, v, files, -, -, rfl⟩ := exists_dir_of_load h hc
  exact version_of_mem_codemodsIn hm

/-- Versions come out of a load in strict order, whatever the disk is. -/
theorem collections_pairwise_of_load (h : load t root = .ok r) :
    r.collections.Pairwise fun c d => c.version.order d.version = .lt := by
  obtain ⟨entries, -, -, rfl⟩ := load_eq_ok_iff.1 h
  exact gather_pairwise List.Pairwise.nil _

/-- On a disk that has each name once in a directory, each version directory is a collection. -/
theorem collections_of_load (ht : t.wellFormed = true) (h : load t root = .ok r) :
    ∃ entries, t.lookup root = some (.dir entries) ∧
      r.collections = (shelves root entries).map Shelf.collection := by
  obtain ⟨entries, hlookup, -, rfl⟩ := load_eq_ok_iff.1 h
  have hdir := (Tree.wellFormed_dir_iff entries).1 (Tree.wellFormed_of_lookup ht hlookup)
  refine ⟨entries, hlookup, ?_⟩
  exact gather_eq_append (shelves_pairwise root hdir.1) fun c hc => nomatch hc

/-- **What is loaded from a disk is listed in order.** -/
theorem listed_of_load (ht : t.wellFormed = true) (h : load t root = .ok r) : r.Listed := by
  refine ⟨collections_pairwise_of_load h, fun c hc m hm => version_of_mem_of_load h hc hm, ?_⟩
  intro c hc
  obtain ⟨entries, v, files, hlookup, hentry, rfl⟩ := exists_dir_of_load h hc
  have hdir := (Tree.wellFormed_dir_iff entries).1 (Tree.wellFormed_of_lookup ht hlookup)
  have hfiles : (Tree.dir files).wellFormed = true := hdir.2 _ hentry
  exact codemodsIn_pairwise v _ ((Tree.wellFormed_dir_iff files).1 hfiles).1

/-- The collections of a range are in order already, whatever the disk is. -/
theorem flattenAscending_inRange_of_load (h : load t root = .ok r) (range : Range) :
    Collection.flattenAscending (r.inRange range) = Collection.flatten (r.inRange range) :=
  Collection.flattenAscending_of_lt
    ((collections_pairwise_of_load h).sublist List.filter_sublist)

end

/-! ## Listing -/

namespace Listed

variable {r : Repository}

theorem codemods_pairwise (h : r.Listed) : r.codemods.Pairwise fun a b => a.order b = .lt := by
  refine List.pairwise_flatMap.2 ⟨fun c hc => ?_, ?_⟩
  · -- two codemods of one version
    refine (h.filenames c hc).imp_of_mem fun {a b} ha hb hab => ?_
    refine Codemod.order_eq_lt_iff.2 (Or.inr ⟨?_, hab⟩)
    rw [h.own c hc a ha, h.own c hc b hb]
  · refine h.versions.imp_of_mem fun {c d} hc hd hcd a ha b hb => ?_
    refine Codemod.order_eq_lt_iff.2 (Or.inl ?_)
    rw [h.own c hc a ha, h.own d hd b hb, hcd]

theorem flattenAscending_eq_flatten (h : r.Listed) (range : Range) :
    Collection.flattenAscending (r.inRange range) = Collection.flatten (r.inRange range) := by
  exact Collection.flattenAscending_of_lt (h.versions.sublist List.filter_sublist)

/-- The codemods of a range are those of the repository with their version in it, in order. -/
theorem flattenAscending_inRange (h : r.Listed) (range : Range) :
    Collection.flattenAscending (r.inRange range)
      = r.codemods.filter fun m => range.contains m.version := by
  rw [h.flattenAscending_eq_flatten, inRange,
    Collection.flatten_filter h.own fun v => range.contains v]
  rfl

end Listed

end Repository

end Uplift
