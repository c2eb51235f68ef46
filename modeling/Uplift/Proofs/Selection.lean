import Mathlib.Data.List.Nodup
import Uplift.Proofs.List
import Uplift.Proofs.Repository
import Uplift.Selection

set_option autoImplicit false

/-! # Picking labels picks collections

A collection is picked by its label, which shows its version and the number of its codemods. Neither
of the two has a blank in it, so a label can be cut at its blanks again, and it tells both
(`label_eq_iff`). Where no version stands twice, no label does; then the collections whose labels were
picked are those that were meant, in whatever order and however often the labels come
(`keepPicked_labels`). -/

namespace Uplift.Collection

open Text

/-! ## Labels -/

/-- The word that ends the label of a collection of `n` codemods. -/
def labelWord (n : Nat) : List Char := (if n = 1 then "codemod)" else "codemods)").toList

/-- A label is cut by blanks into a version, a number and a word. -/
theorem toList_label (c : Collection) : c.label.toList =
    c.version.chars ++
      ' ' :: ('(' :: digits c.codemods.length ++ ' ' :: labelWord c.codemods.length) := by
  by_cases hone : c.codemods.length = 1 <;>
    simp [label, labelWord, hone, Version.text, decimal]

/-- Collections share a label exactly if they are of one version and have equally many codemods. -/
theorem label_eq_iff {c d : Collection} : c.label = d.label ↔
    c.version = d.version ∧ c.codemods.length = d.codemods.length := by
  constructor
  · intro hlabel
    have hchars := congrArg String.toList hlabel
    rw [toList_label, toList_label] at hchars
    have hversion (v : Version) : ' ' ∉ v.chars :=
      Version.notMem_chars (by decide) (by decide) (by decide) v
    have hnumber (n : Nat) : ' ' ∉ '(' :: digits n :=
      List.not_mem_cons_of_ne_of_not_mem (by decide) (notMem_digits (by decide) n)
    have hcut := congrArg (splitFirst ' ') hchars
    rw [splitFirst_append (hversion _), splitFirst_append (hversion _)] at hcut
    obtain ⟨hversions, hrest⟩ := Prod.mk.inj (Option.some.inj hcut)
    have hcut := congrArg (splitFirst ' ') hrest
    rw [splitFirst_append (hnumber _), splitFirst_append (hnumber _)] at hcut
    obtain ⟨hnumbers, -⟩ := Prod.mk.inj (Option.some.inj hcut)
    have hcount := congrArg ofDigits (List.cons.inj hnumbers).2
    rw [ofDigits_digits, ofDigits_digits] at hcount
    exact ⟨Version.text_injective (congrArg String.ofList hversions), hcount⟩
  · rintro ⟨hversion, hcount⟩
    simp only [label, hversion, hcount]

/-! ## Keeping what was picked -/

/-- Among different versions a label belongs to one collection. -/
theorem eq_of_label_eq {collections : List Collection}
    (hversions : collections.Pairwise fun c d => c.version ≠ d.version) {c d : Collection}
    (hc : c ∈ collections) (hd : d ∈ collections) (hlabel : c.label = d.label) : c = d := by
  have hnodup : (collections.map version).Nodup := List.pairwise_map.2 hversions
  exact List.inj_on_of_nodup_map hnodup hc hd (label_eq_iff.1 hlabel).1

/-- **Picking labels picks exactly the collections that have them.** In a list of collections of
    different versions, such as those that a loaded repository has for a range, let some collections be
    meant and let their labels be picked, in any order and any number of times: those collections are
    kept, in the order of the list. Labels tell versions apart that differ in any way, and numbers of
    codemods as well. -/
theorem keepPicked_labels {collections meant : List Collection} {picked : List String}
    (hversions : collections.Pairwise fun c d => c.version ≠ d.version)
    (hmeant : meant.Sublist collections) (hpicked : ∀ l, l ∈ picked ↔ l ∈ meant.map label) :
    keepPicked collections picked = meant ∧
    (∀ c d : Collection, c.label = d.label ↔
      c.version = d.version ∧ c.codemods.length = d.codemods.length) ∧
    (∀ (t : Tree) (root : Path) (r : Repository) (range : Range), t.wellFormed = true →
      Repository.load t root = .ok r →
      (r.find { range := some range }).Pairwise fun c d => c.version ≠ d.version) := by
  refine ⟨?_, fun _ _ => label_eq_iff, ?_⟩
  · have hnodup : collections.Nodup := by
      refine hversions.imp fun {c d} hcd heq => hcd (congrArg version heq)
    refine filter_eq_of_sublist hmeant hnodup fun c hc => ?_
    rw [List.contains_iff_mem, hpicked, List.mem_map]
    constructor
    · rintro ⟨d, hd, hlabel⟩
      rwa [← eq_of_label_eq hversions (hmeant.subset hd) hc hlabel]
    · intro hcmeant
      exact ⟨c, hcmeant, rfl⟩
  · intro t root r range ht hload
    have hlisted := Repository.listed_of_load ht hload
    refine (hlisted.versions.sublist List.filter_sublist).imp fun {c d} hcd heq => ?_
    rw [heq, Version.order_self] at hcd
    cases hcd

/-- A release, a prerelease of it and a build of it, with one or two codemods. -/
def threeOfOne : List Collection :=
  let release : Version := .release 1 0 0
  let codemod (v : Version) (file : String) : Codemod := ⟨.code, v, ⟨"/codemods"⟩, file⟩
  let of (v : Version) (files : List String) : Collection := ⟨v, files.map (codemod v)⟩
  [of { release with pre := [.number 1] } ["a.code.ts"], of release ["a.code.ts", "b.code.ts"],
    of { release with build := [⟨"nightly", by decide⟩] } ["a.code.ts"]]

/-- The prerelease and the build are picked, the build twice. -/
theorem keepPicked_labels_threeOfOne :
    threeOfOne.Pairwise (fun c d => c.version ≠ d.version) ∧
    (threeOfOne.eraseIdx 1).map label = ["1.0.0-1 (1 codemod)", "1.0.0+nightly (1 codemod)"] ∧
    keepPicked threeOfOne
      ["1.0.0+nightly (1 codemod)", "1.0.0-1 (1 codemod)", "1.0.0+nightly (1 codemod)"]
        = threeOfOne.eraseIdx 1 := by
  have hversions : threeOfOne.Pairwise fun c d => c.version ≠ d.version := by decide
  have hlabels : (threeOfOne.eraseIdx 1).map label
      = ["1.0.0-1 (1 codemod)", "1.0.0+nightly (1 codemod)"] := by decide
  refine ⟨hversions, hlabels, ?_⟩
  refine (keepPicked_labels hversions (List.eraseIdx_sublist _ _) fun l => ?_).1
  rw [hlabels]
  simp [or_comm]

end Uplift.Collection
