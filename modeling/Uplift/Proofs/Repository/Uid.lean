import Uplift.CodemodRun
import Uplift.Proofs.List
import Uplift.Proofs.Repository

set_option autoImplicit false

/-! # Finding codemods by uid

A uid finds the first codemod of a repository that has it. For a codemod this is the codemod itself,
unless one that is listed before it clashes with it (`uid_identifies`). In a repository without
clashes uids are therefore identities. Nothing keeps clashing files out of a repository: two patches
that differ in their extension get one uid (`uid_of_two_patches`). -/

namespace Uplift

open Std

theorem Codemod.order_asymm (a b : Codemod) (hab : a.order b = .lt) : ¬ b.order a = .lt := by
  intro hba
  rcases Codemod.order_eq_lt_iff.1 hab with hv | ⟨hv, hf⟩
  · have hgt : b.version.order a.version = .gt := OrientedCmp.gt_iff_lt.2 hv
    rcases Codemod.order_eq_lt_iff.1 hba with hv' | ⟨hv', -⟩
    · rw [hv'] at hgt
      cases hgt
    · rw [hv', Version.order_self] at hgt
      cases hgt
  · have hgt : compare b.filename a.filename = .gt := OrientedCmp.gt_iff_lt.2 hf
    rw [Codemod.order, hv, Version.order_self, hgt] at hba
    cases hba

namespace Repository

/-! ## Loaded codemods -/

theorem named_of_load {t : Tree} {root : Path} {r : Repository} (h : load t root = .ok r) {m : Codemod}
    (hm : m ∈ r.codemods) : m.Named := by
  obtain ⟨c, hc, hm⟩ := List.mem_flatMap.1 hm
  obtain ⟨entries, v, files, -, -, rfl⟩ := exists_dir_of_load h hc
  obtain ⟨f, content, hproper, -, rfl⟩ := mem_codemodsIn.1 hm
  exact ⟨f, FileName.read?_text hproper, rfl⟩

/-! ## Uids -/

section

variable {t : Tree} {root : Path} {r : Repository}

/-- Two codemods of a loaded repository share a uid exactly when they are the same or clash. -/
theorem uid_eq_iff_of_load (ht : t.wellFormed = true) (h : load t root = .ok r) {a b : Codemod}
    (ha : a ∈ r.codemods) (hb : b ∈ r.codemods) : a.uid = b.uid ↔ a = b ∨ a.Clash b := by
  by_cases hab : a = b
  · simp [hab]
  have hne : a.version = b.version → a.filename ≠ b.filename := by
    intro hversion hfilename
    rcases rel_or_eq_or_rel (listed_of_load ht h).codemods_pairwise ha hb with hlt | heq | hlt
    · simp [Codemod.order, hversion, hfilename, Version.order_self] at hlt
    · exact hab heq
    · simp [Codemod.order, hversion, hfilename, Version.order_self] at hlt
  rw [Codemod.uid_eq_iff (named_of_load h ha) (named_of_load h hb) hne]
  simp [hab]

/-- A uid finds its codemod exactly when no codemod before it clashes with it. -/
theorem withUid?_uid (ht : t.wellFormed = true) (h : load t root = .ok r) {c : Codemod}
    (hc : c ∈ r.codemods) :
    r.withUid? c.uid = some c ↔ ∀ d ∈ r.codemods, d.order c = .lt → ¬ d.Clash c := by
  have hpairwise := (listed_of_load ht h).codemods_pairwise
  rw [withUid?, find?_eq_some_iff_of_pairwise Codemod.order_asymm hpairwise hc (by simp)]
  refine forall_congr' fun d => forall_congr' fun hd => forall_congr' fun hlt => ?_
  have hne : d ≠ c := by
    rintro rfl
    rw [Codemod.order_self] at hlt
    cases hlt
  simp [uid_eq_iff_of_load ht h hd hc, hne]

/-- Uids are different exactly when nothing clashes. -/
theorem nodup_uids (ht : t.wellFormed = true) (h : load t root = .ok r) :
    (r.codemods.map Codemod.uid).Nodup ↔ ∀ a ∈ r.codemods, ∀ b ∈ r.codemods, ¬ a.Clash b := by
  have hpairwise := (listed_of_load ht h).codemods_pairwise
  rw [List.Nodup, List.pairwise_map]
  constructor
  · intro hnodup a ha b hb hclash
    rcases rel_or_eq_or_rel hnodup ha hb with hne | rfl | hne
    · exact hne hclash.uid_eq
    · exact Codemod.Clash.irrefl a hclash
    · exact hne hclash.uid_eq.symm
  · intro hnone
    refine hpairwise.imp_of_mem fun {a b} ha hb hlt heq => ?_
    rcases (uid_eq_iff_of_load ht h ha hb).1 heq with rfl | hclash
    · rw [Codemod.order_self] at hlt
      cases hlt
    · exact hnone a ha b hb hclash

end

/-- **A uid identifies a codemod, clashes apart.** After a refresh from any disk, no two codemods share
    a uid exactly when no two of them clash. The uid of a codemod finds one codemod with that uid, and
    a run by that uid runs this one alone. It is the codemod itself exactly when none that is listed
    before it clashes with it. -/
theorem uid_identifies {t : Tree} {start r : Repository} (ht : t.wellFormed = true)
    (hrefresh : refresh t start = (.ok (), r)) :
    ((r.codemods.map Codemod.uid).Nodup ↔ ∀ a ∈ r.codemods, ∀ b ∈ r.codemods, ¬ a.Clash b) ∧
    ∀ c ∈ r.codemods, ∃ found ∈ r.codemods, r.withUid? c.uid = some found ∧ found.uid = c.uid ∧
      (∀ run : CodemodRun, run.repository = r → run.runUid c.uid = run.runAll [found]) ∧
      (found = c ↔ ∀ d ∈ r.codemods, d.order c = .lt → ¬ d.Clash c) := by
  have hload := load_of_refresh hrefresh
  refine ⟨nodup_uids ht hload, fun c hc => ?_⟩
  have hsome : (r.withUid? c.uid).isSome = true := by
    rw [withUid?, List.find?_isSome]
    exact ⟨c, hc, by simp⟩
  obtain ⟨found, hfound⟩ := Option.isSome_iff_exists.1 hsome
  have huid : found.uid = c.uid := by simpa using List.find?_some hfound
  refine ⟨found, List.mem_of_find?_eq_some hfound, hfound, huid, ?_, ?_⟩
  · rintro run rfl
    rw [CodemodRun.runUid, hfound]
  · rw [← withUid?_uid ht hload hc, hfound, Option.some.injEq]

/-- A patch for version 2.0.0. -/
def patchFor (file : String) : Codemod := ⟨.document, .release 2 0 0, ⟨"/codemods/2.0.0"⟩, file⟩

/-- Codemods whose versions and names have hyphens. -/
def hyphens : Tree :=
  .dir [("codemods", .dir [
    ("2.0.0", .dir [("a-c.document.json", .file (.text "[]"))]),
    ("2.0.0-a", .dir [("b.document.json", .file (.text "[]"))])])]

/-- In spite of the hyphens nothing clashes, and the uid of the second codemod finds it. -/
theorem uid_identifies_hyphens :
    let first : Codemod :=
      ⟨.document, ⟨2, 0, 0, [.word ⟨"a", rfl⟩], []⟩, ⟨"/codemods/2.0.0-a"⟩, "b.document.json"⟩
    let second := patchFor "a-c.document.json"
    let r : Repository := {
      root := ⟨"/codemods"⟩
      collections := [⟨first.version, [first]⟩, ⟨.release 2 0 0, [second]⟩] }
    hyphens.wellFormed = true ∧ refresh hyphens { root := ⟨"/codemods"⟩ } = (.ok (), r) ∧
      (first.uid = "2.0.0-a-b-document" ∧ second.uid = "2.0.0-a-c-document") ∧
      (∀ a ∈ r.codemods, ∀ b ∈ r.codemods, ¬ a.Clash b) ∧ r.withUid? second.uid = some second := by
  intro first second r
  have hwf : hyphens.wellFormed = true := by decide
  have hrefresh : refresh hyphens { root := ⟨"/codemods"⟩ } = (.ok (), r) := rfl
  obtain ⟨hnodup, hfind⟩ := uid_identifies hwf hrefresh
  have hnone := hnodup.1 (by decide)
  have hmem : second ∈ r.codemods := by decide
  obtain ⟨found, -, hfound, -, -, hself⟩ := hfind second hmem
  obtain rfl := hself.2 fun d hd _ => hnone d hd second hmem
  exact ⟨hwf, hrefresh, by decide, hnone, hfound⟩

/-- A disk with two patches that differ in their extension. -/
def twoPatches : Tree :=
  .dir [("codemods", .dir [("2.0.0", .dir [
    ("bump.document.yaml", .file (.text "[]")), ("bump.document.json", .file (.text "[]"))])])]

/-- Both patches get one uid, which finds the first of them. -/
theorem uid_of_two_patches :
    let r : Repository := {
      root := ⟨"/codemods"⟩
      collections := [⟨.release 2 0 0,
        [patchFor "bump.document.json", patchFor "bump.document.yaml"]⟩] }
    twoPatches.wellFormed = true ∧ refresh twoPatches { root := ⟨"/codemods"⟩ } = (.ok (), r) ∧
      ¬ (r.codemods.map Codemod.uid).Nodup ∧ patchFor "bump.document.yaml" ∈ r.codemods ∧
      r.withUid? (patchFor "bump.document.yaml").uid = some (patchFor "bump.document.json") := by
  refine ⟨by decide, rfl, by decide, by decide, by decide⟩

end Repository

end Uplift
