import Uplift.Proofs.Repository.Uid
import Uplift.Proofs.Text.Bytes
import Uplift.Proofs.Tree.Names

set_option autoImplicit false

/-! # A repository holds what is on the disk

The version directories of a repository are the directories right below its root that are named by a
version. A refresh succeeds exactly if there is one, and then the repository has one collection for each
of them, since different directories have different versions. A collection has one codemod for each file
that is right in the directory and named like a codemod, in the order of the bytes of the names, and the
path of a codemod leads to its file (`refresh_holds`). -/

namespace Uplift.Repository

open Std

/-- The directory of a version: it is right below the root and named by the version. -/
def VersionDir (t : Tree) (root : Path) (v : Version) (files : List (String × Tree)) : Prop :=
  ∃ entries, t.lookup root = some (.dir entries) ∧ (v.text, .dir files) ∈ entries

/-- What a repository has of a version directory. -/
structure Holds (t : Tree) (root : Path) (v : Version) (files : List (String × Tree))
    (codemods : List Codemod) : Prop where
  /-- Codemods are in the order of the bytes of their file names, and none occurs twice. -/
  ascending : codemods.Pairwise fun a b => utf8 a.filename.toList < utf8 b.filename.toList
  /-- They are the files with the name of a codemod. -/
  mem_iff : ∀ m, m ∈ codemods ↔ ∃ f content, FileName.Proper f ∧ (f.text, .file content) ∈ files ∧
    m = ⟨f.kind, v, root.child v.text, f.text⟩
  /-- Their paths lead to these files. -/
  found : ∀ m ∈ codemods, ∃ content, (m.filename, .file content) ∈ files ∧
    t.lookup m.path = some (.file content)

/-! ## Collections -/

section

variable {t : Tree} {root : Path} {r : Repository}

/-- The collections are those of the version directories. -/
theorem mem_collections_of_load (hdisk : t.wellFormed = true) (h : load t root = .ok r)
    {c : Collection} : c ∈ r.collections ↔ ∃ v files, VersionDir t root v files ∧
      c = ⟨v, codemodsIn v (root.child v.text) files⟩ := by
  obtain ⟨entries, hlookup, hcollections⟩ := collections_of_load hdisk h
  rw [hcollections, List.mem_map]
  constructor
  · rintro ⟨s, hs, rfl⟩
    obtain ⟨v, files, hentry, rfl⟩ := mem_shelves_iff.1 hs
    exact ⟨v, files, ⟨entries, hlookup, hentry⟩, rfl⟩
  · rintro ⟨v, files, ⟨entries', hlookup', hentry⟩, rfl⟩
    obtain rfl : entries = entries' := by simpa [hlookup] using hlookup'
    exact ⟨_, mem_shelves_iff.2 ⟨v, files, hentry, rfl⟩, rfl⟩

theorem exists_load_iff : (∃ r, load t root = .ok r) ↔ ∃ v files, VersionDir t root v files := by
  constructor
  · rintro ⟨r, h⟩
    obtain ⟨c, hc⟩ := List.exists_mem_of_ne_nil _ (collections_ne_nil_of_load h)
    obtain ⟨entries, v, files, hlookup, hentry, -⟩ := exists_dir_of_load h hc
    exact ⟨v, files, entries, hlookup, hentry⟩
  · rintro ⟨v, files, entries, hlookup, hentry⟩
    have hshelf : ⟨v, root.child v.text, files⟩ ∈ shelves root entries :=
      mem_shelves_iff.2 ⟨v, files, hentry, rfl⟩
    exact ⟨_, load_eq_ok_iff.2 ⟨entries, hlookup, List.ne_nil_of_mem hshelf, rfl⟩⟩

theorem mem_versions_of_load (hdisk : t.wellFormed = true) (h : load t root = .ok r) {v : Version} :
    v ∈ r.versions ↔ ∃ files, VersionDir t root v files := by
  rw [versions, List.mem_map]
  constructor
  · rintro ⟨c, hc, rfl⟩
    obtain ⟨v, files, hdir, rfl⟩ := (mem_collections_of_load hdisk h).1 hc
    exact ⟨files, hdir⟩
  · rintro ⟨files, hdir⟩
    exact ⟨_, (mem_collections_of_load hdisk h).2 ⟨v, files, hdir, rfl⟩, rfl⟩

end

/-- Versions are listed once, so a version finds its own collection. -/
theorem Listed.ofVersion_eq {r : Repository} (hr : r.Listed) {c : Collection}
    (hc : c ∈ r.collections) : r.ofVersion c.version = c.codemods := by
  have hasymm : ∀ a b : Collection,
      a.version.order b.version = .lt → ¬ b.version.order a.version = .lt := by
    intro a b hab hba
    rw [OrientedCmp.gt_iff_lt.2 hab] at hba
    cases hba
  have hfind : r.collections.find? (·.version = c.version) = some c := by
    rw [find?_eq_some_iff_of_pairwise hasymm hr.versions hc (by simp)]
    intro d _ hdc
    rw [decide_eq_false_iff_not]
    intro heq
    rw [heq, Version.order_self] at hdc
    cases hdc
  rw [ofVersion, hfind]

theorem ofVersion_of_notMem {r : Repository} {v : Version} (h : v ∉ r.versions) :
    r.ofVersion v = [] := by
  have hfind : r.collections.find? (·.version = v) = none := by
    rw [List.find?_eq_none]
    intro c hc hv
    exact h (List.mem_map.2 ⟨c, hc, by simpa using hv⟩)
  rw [ofVersion, hfind]

/-! ## The disk -/

section

variable {t : Tree} {root : Path} {v : Version} {files : List (String × Tree)}

theorem VersionDir.lookup (hdisk : t.wellFormed = true) (hnames : t.wellNamed = true)
    (h : VersionDir t root v files) : t.lookup (root.child v.text) = some (.dir files) := by
  obtain ⟨entries, hlookup, hentry⟩ := h
  have hnamed := (Tree.wellNamed_dir_iff entries).1 (Tree.wellNamed_of_lookup hnames hlookup)
  have hformed := (Tree.wellFormed_dir_iff entries).1 (Tree.wellFormed_of_lookup hdisk hlookup)
  rw [Tree.lookup_child hlookup (hnamed _ hentry).1]
  exact Fields.get?_of_mem hformed.1 hentry

theorem holds_codemodsIn (hdisk : t.wellFormed = true) (hnames : t.wellNamed = true)
    (h : VersionDir t root v files) :
    Holds t root v files (codemodsIn v (root.child v.text) files) := by
  have hlookup := h.lookup hdisk hnames
  have hnamed := (Tree.wellNamed_dir_iff files).1 (Tree.wellNamed_of_lookup hnames hlookup)
  have hformed := (Tree.wellFormed_dir_iff files).1 (Tree.wellFormed_of_lookup hdisk hlookup)
  refine ⟨?_, fun m => mem_codemodsIn, fun m hm => ?_⟩
  · exact (codemodsIn_pairwise v _ hformed.1).imp fun hab => utf8_lt_of_compare hab
  · obtain ⟨f, content, -, hentry, rfl⟩ := mem_codemodsIn.1 hm
    refine ⟨content, hentry, ?_⟩
    rw [Codemod.path, Tree.lookup_child hlookup (hnamed _ hentry).1]
    exact Fields.get?_of_mem hformed.1 hentry

end

/-- **A repository holds exactly the codemod files on the disk.** A refresh succeeds exactly if a
    directory right below the root is named by a version. Then the versions are those of these
    directories, each once and in strictly ascending order, and the codemods of a version are the files
    in its directory that are named like codemods. -/
theorem refresh_holds {t : Tree} (hdisk : t.wellFormed = true) (hnames : t.wellNamed = true)
    (start : Repository) :
    ((refresh t start).1 = .ok () ↔ ∃ v files, VersionDir t start.root v files) ∧
    ∀ r, refresh t start = (.ok (), r) →
      r.versions.Pairwise (fun v w => v.order w = .lt) ∧
      (∀ v, v ∈ r.versions ↔ ∃ files, VersionDir t start.root v files) ∧
      (∀ v files, VersionDir t start.root v files → Holds t start.root v files (r.ofVersion v)) ∧
      (∀ v, v ∉ r.versions → r.ofVersion v = []) := by
  refine ⟨refresh_eq_ok_iff.trans exists_load_iff, fun r hrefresh => ?_⟩
  have hload := load_of_refresh hrefresh
  have hlisted := listed_of_load hdisk hload
  refine ⟨List.pairwise_map.2 hlisted.versions, fun v => mem_versions_of_load hdisk hload,
    fun v files hdir => ?_, fun v hv => ofVersion_of_notMem hv⟩
  have hc := (mem_collections_of_load hdisk hload).2 ⟨v, files, hdir, rfl⟩
  rw [hlisted.ofVersion_eq hc]
  exact holds_codemodsIn hdisk hnames hdir

/-- A version directory with a hidden file and a nested directory. -/
def shelfFiles : List (String × Tree) := [
  ("b.code.ts", .file (.text "b")),
  ("a.v2.document.json", .file (.text "[]")),
  (".code.ts", .file (.text "")),
  ("old", .dir [("c.code.ts", .file (.text ""))])]

/-- A root with two version directories, a directory named by no version and a file named by one. -/
def shelfEntries : List (String × Tree) := [
  ("2.0.0", .dir shelfFiles),
  ("2.0.0+7", .dir []),
  ("2.0", .dir [("d.code.ts", .file (.text ""))]),
  ("3.0.0", .file (.text ""))]

/-- A disk on which the root has the characters of a pattern in its name. -/
def shelf : Tree := .dir [("mods[*]", .dir shelfEntries)]

/-- The first codemod of version 2.0.0. -/
def shelved : Codemod :=
  ⟨.document, .release 2 0 0, ⟨"/mods[*]/2.0.0"⟩, "a.v2.document.json"⟩

/-- The path of the codemod leads to its file, and the file named by a version is no version. -/
theorem refresh_holds_shelf :
    let after := refresh shelf { root := ⟨"/mods[*]"⟩ }
    shelf.wellFormed = true ∧ shelf.wellNamed = true ∧ after.1 = .ok () ∧
      shelved ∈ after.2.ofVersion (.release 2 0 0) ∧
      (∃ content, shelf.lookup shelved.path = some (.file content)) ∧
      after.2.ofVersion (.release 3 0 0) = [] := by
  have hdisk : shelf.wellFormed = true := by decide
  have hnames : shelf.wellNamed = true := by decide
  have hdir : VersionDir shelf ⟨"/mods[*]"⟩ (.release 2 0 0) shelfFiles :=
    ⟨shelfEntries, rfl, List.mem_cons_self⟩
  have hfile : ("a.v2.document.json", Tree.file (.text "[]")) ∈ shelfFiles :=
    .tail _ (.head _)
  have hproper : FileName.Proper ⟨"a.v2", .document, "json"⟩ := ⟨by decide, by decide, by decide⟩
  obtain ⟨hok, hholds⟩ := refresh_holds hdisk hnames { root := ⟨"/mods[*]"⟩ }
  have hdone := hok.2 ⟨_, _, hdir⟩
  obtain ⟨-, -, hof, hnone⟩ := hholds _ (Prod.ext hdone rfl)
  have hmem := ((hof _ _ hdir).mem_iff shelved).2 ⟨_, _, hproper, hfile, rfl⟩
  obtain ⟨content, -, hpath⟩ := (hof _ _ hdir).found _ hmem
  exact ⟨hdisk, hnames, hdone, hmem, ⟨content, hpath⟩, hnone _ (by decide)⟩

end Uplift.Repository
