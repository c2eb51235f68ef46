import Mathlib.Data.List.Perm.Basic
import Uplift.Proofs.Repository

set_option autoImplicit false

/-! # The order in which collections are run

A selector may return any list of collections: in any order, with a version in it several times, with
nothing in some of them. `Arranges` says how such a list is put in order. Versions ascend in the total
order, and collections of one version, which are the only ones that it does not tell apart, stay in the
order in which they were selected. There is exactly one such arrangement (`Arranges.eq`), and the
codemods are run as they stand in it (`flattenAscending_stable`).

What a repository finds is arranged already, by range as well as by uid (`find_ascending`). -/

namespace Uplift

open Std

namespace Collection

/-- Versions ascend in the total order, and may stand in the list several times. -/
def Ascending (collections : List Collection) : Prop :=
  collections.Pairwise fun c d => (c.version.order d.version).isLE = true

instance (collections : List Collection) : Decidable (Ascending collections) :=
  inferInstanceAs (Decidable (List.Pairwise _ _))

/-- `arranged` has the collections of a list with their versions ascending, and those of a version in
    the order in which the list has them. -/
structure Arranges (arranged collections : List Collection) : Prop where
  perm : arranged.Perm collections
  ascending : Ascending arranged
  stable : ∀ v, arranged.filter (·.version = v) = collections.filter (·.version = v)

theorem arranges_sortOn (collections : List Collection) :
    Arranges (Version.sortOn Collection.version collections) collections where
  perm := sortBy_perm _ collections
  ascending := sortBy_pairwise (fun c d => by simp) collections
  stable v := by
    refine filter_sortBy (fun c d hc hd => ?_) collections
    have hsame : c.version = d.version := (of_decide_eq_true hc).trans (of_decide_eq_true hd).symm
    rw [hsame, Version.order_self]
    rfl

/-- A list is arranged in one way only. -/
theorem Arranges.eq {collections arranged other : List Collection}
    (h : Arranges arranged collections) (hother : Arranges other collections) : other = arranged := by
  refine eq_of_pairwise_of_filter hother.ascending h.ascending fun c => ?_
  -- only equal versions compare as equal
  have hclass : (fun d : Collection => decide (c.version.order d.version = .eq))
      = fun d => decide (d.version = c.version) := by
    funext d
    rw [decide_eq_decide, LawfulEqCmp.compare_eq_iff_eq, eq_comm]
  rw [hclass, hother.stable, h.stable]

end Collection

namespace Repository

variable {t : Tree} {root : Path} {r : Repository}

theorem codemods_pairwise_of_load (h : load t root = .ok r) :
    r.codemods.Pairwise fun a b => (a.version.order b.version).isLE = true := by
  refine List.pairwise_flatMap.2 ⟨fun c hc => ?_, ?_⟩
  · refine List.pairwise_of_forall_mem_list fun a ha b hb => ?_
    rw [version_of_mem_of_load h hc ha, version_of_mem_of_load h hc hb, Version.order_self]
    rfl
  · refine (collections_pairwise_of_load h).imp_of_mem fun {c d} hc hd hcd a ha b hb => ?_
    rw [version_of_mem_of_load h hc ha, version_of_mem_of_load h hd hb, hcd]
    rfl

theorem ascending_of_load (h : load t root = .ok r) : Collection.Ascending r.collections := by
  refine (collections_pairwise_of_load h).imp fun {c d} hcd => ?_
  rw [hcd]
  rfl

theorem find_ascending_of_load (h : load t root = .ok r) (q : Query) :
    Collection.Ascending (r.find q) := by
  unfold find
  split
  · -- each codemod is a collection of its own
    refine List.pairwise_map.2 ?_
    exact (codemods_pairwise_of_load h).sublist List.filter_sublist
  · exact (ascending_of_load h).sublist List.filter_sublist
  · exact ascending_of_load h

/-- **What a repository finds is in order**, also after a refresh that failed. -/
theorem find_ascending (t : Tree) (start : Repository) (q : Query) :
    Collection.Ascending ((refresh t start).2.find q) := by
  rw [refresh_eq]
  cases hload : load t start.root with
  | ok fresh => exact find_ascending_of_load hload q
  | error e =>
    have hnone : Repository.find { root := start.root } q = [] := by
      unfold find
      split <;> rfl
    rw [hnone]
    exact List.Pairwise.nil

end Repository

namespace Collection

/-- **Collections are run in the order of their versions, and nothing is lost.** Any list of collections
    is arranged in exactly one way, and its codemods are run as the arrangement has them, collection by
    collection. So they are all codemods of the list in another order, and those of a list with versions
    ascending in the same order. What a repository finds is such a list. -/
theorem flattenAscending_stable (collections : List Collection) :
    (∃ arranged, Arranges arranged collections ∧
      (∀ other, Arranges other collections → other = arranged) ∧
      flattenAscending collections = arranged.flatMap (·.codemods)) ∧
    (flattenAscending collections).Perm (collections.flatMap (·.codemods)) ∧
    (Ascending collections → flattenAscending collections = collections.flatMap (·.codemods)) ∧
    (∀ (t : Tree) (start : Repository) (q : Repository.Query),
      let found := (Repository.refresh t start).2.find q
      Ascending found ∧ flattenAscending found = found.flatMap (·.codemods)) := by
  have harranges := arranges_sortOn collections
  refine ⟨⟨_, harranges, fun other hother => harranges.eq hother, rfl⟩, ?_, ?_, ?_⟩
  · exact harranges.perm.flatMap_right _
  · exact flattenAscending_of_pairwise
  · intro t start q found
    have hfound : Ascending found := Repository.find_ascending t start q
    exact ⟨hfound, flattenAscending_of_pairwise hfound⟩

/-- A numbered prerelease of version 2.0.0. -/
def beta (n : Nat) : Version := { Version.release 2 0 0 with pre := [.word ⟨"beta", rfl⟩, .number n] }

/-- Collections in no order, with a version twice and with nothing in one of them. -/
def shuffled : List Collection :=
  let codemod (v : Version) (file : String) : Codemod := ⟨.code, v, ⟨"/codemods"⟩, file⟩
  let of (v : Version) (files : List String) : Collection := ⟨v, files.map (codemod v)⟩
  [of (.release 2 0 0) ["z.code.ts", "a.code.ts"], of (beta 10) ["n.code.ts"], of (.release 1 0 0) [],
    of (beta 9) ["m.code.ts"], of (.release 2 0 0) ["b.code.ts"]]

/-- Prereleases are run by their numbers, and the two collections of version 2.0.0 in the order in which
    they were selected. -/
theorem flattenAscending_stable_shuffled :
    let sorted := Version.sortOn Collection.version shuffled
    ¬ Ascending shuffled ∧ Ascending sorted ∧
      flattenAscending sorted = sorted.flatMap (·.codemods) ∧
      ∃ arranged, Arranges arranged shuffled ∧ (arranged.flatMap (·.codemods)).map (·.filename)
        = ["m.code.ts", "n.code.ts", "z.code.ts", "a.code.ts", "b.code.ts"] := by
  intro sorted
  have hsorted : Ascending sorted := by decide
  obtain ⟨⟨arranged, harranges, -, hflat⟩, -⟩ := flattenAscending_stable shuffled
  refine ⟨by decide, hsorted, (flattenAscending_stable sorted).2.2.1 hsorted, arranged, harranges, ?_⟩
  rw [← hflat]
  decide

end Collection

end Uplift
