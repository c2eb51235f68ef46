import Uplift.Proofs.List
import Uplift.Proofs.Range
import Uplift.Proofs.Repository.Contents

set_option autoImplicit false

/-! # The queries of a repository agree

A repository can be asked for its versions, for the codemods of a version or of a range, and for
codemods by uid. Each of these walks the collections in a way of its own.

Ranges are convex: what lies between two versions of a range by precedence is in the range
(`Range.contains_of_between`). The versions of a repository ascend in the total order, which decides by
precedence wherever that decides, so the versions of a range stand next to each other in the list
(`Listed.find_inRange_block`). A query by uids looks at the codemods one by one and asks only whether
their uid is listed, whatever the range; the codemod that a single uid finds is the first of them
(`withUid?_eq_head?`). -/

namespace Uplift

open Std

/-! ## Convexity -/

namespace Version

/-- A version that comes first in the total order is not above by precedence. -/
theorem isLE_precedence_of_order_lt {v w : Version} (h : v.order w = .lt) :
    (v.precedence w).isLE = true :=
  isLE_precedence_of_order_gt (OrientedCmp.gt_of_lt h)

end Version

namespace Range

/-- **What lies between two versions of a range is in the range.** -/
theorem contains_of_between {range : Range} {u v w : Version} (huv : (u.precedence v).isLE = true)
    (hvw : (v.precedence w).isLE = true) (hu : range.contains u = true)
    (hw : range.contains w = true) : range.contains v = true := by
  obtain ⟨lower, upper⟩ := range
  simp only [contains, Bool.and_eq_true] at hu hw ⊢
  constructor
  · -- the lower end is met by `u` already
    have hlower := hu.1
    cases lower with
    | none => rfl
    | some b =>
      obtain ⟨lo, inclusive⟩ := b
      simp only [Option.all_some] at hlower ⊢
      cases inclusive with
      | false =>
        rw [meetsLower_exclusive] at hlower ⊢
        exact TransCmp.lt_of_lt_of_isLE hlower huv
      | true =>
        rw [meetsLower_inclusive] at hlower ⊢
        exact TransCmp.isLE_trans hlower huv
  · have hupper := hw.2
    cases upper with
    | none => rfl
    | some b =>
      obtain ⟨hi, inclusive⟩ := b
      simp only [Option.all_some] at hupper ⊢
      cases inclusive with
      | false =>
        rw [meetsUpper_exclusive] at hupper ⊢
        exact TransCmp.lt_of_isLE_of_lt hvw hupper
      | true =>
        rw [meetsUpper_inclusive] at hupper ⊢
        exact TransCmp.isLE_trans hvw hupper

end Range

namespace Repository

/-! ## Ranges -/

section

variable {r : Repository}

/-- A codemod is listed under its own version, and under no other. -/
theorem Listed.mem_codemods_iff (hr : r.Listed) {m : Codemod} :
    m ∈ r.codemods ↔ m ∈ r.ofVersion m.version := by
  constructor
  · intro hm
    obtain ⟨c, hc, hm⟩ := List.mem_flatMap.1 hm
    rw [hr.own c hc m hm, hr.ofVersion_eq hc]
    exact hm
  · intro hm
    by_cases hv : m.version ∈ r.versions
    · obtain ⟨c, hc, hversion⟩ := List.mem_map.1 hv
      rw [← hversion, hr.ofVersion_eq hc] at hm
      exact List.mem_flatMap.2 ⟨c, hc, hm⟩
    · rw [ofVersion_of_notMem hv] at hm
      cases hm

/-- **The versions of a range are a block of all versions.** -/
theorem Listed.find_inRange_block (hr : r.Listed) (range : Range) : ∃ front back,
    r.versions = front ++ (r.inRange range).map (·.version) ++ back ∧
      ∀ v ∈ front ++ back, range.contains v = false := by
  have hconvex : ∀ a b c : Version, a.order b = .lt → b.order c = .lt → range.contains a = true →
      range.contains c = true → range.contains b = true := by
    intro a b c hab hbc ha hc
    exact Range.contains_of_between (Version.isLE_precedence_of_order_lt hab)
      (Version.isLE_precedence_of_order_lt hbc) ha hc
  have hkept : (r.inRange range).map (·.version) = r.versions.filter range.contains := by
    rw [inRange, Repository.versions, List.filter_map]
    rfl
  rw [hkept]
  exact exists_block_of_convex hconvex (List.pairwise_map.2 hr.versions)

theorem Listed.countIn_eq (hr : r.Listed) (range : Range) :
    r.countIn range = ((r.inRange range).map fun c => r.count c.version).foldr (· + ·) 0 := by
  have hcount : ∀ c ∈ r.inRange range, r.count c.version = c.codemods.length := by
    intro c hc
    rw [count, hr.ofVersion_eq ((List.mem_filter.1 hc).1)]
  rw [countIn, List.map_congr_left hcount, List.foldr_map]

end

/-! ## Uids -/

/-- The codemods with one of these uids, in the order of the repository. -/
def listedUnder (r : Repository) (uids : List String) : List Codemod :=
  r.codemods.filter fun m => uids.contains m.uid

section

variable {r : Repository}

theorem mem_listedUnder {uids : List String} {m : Codemod} :
    m ∈ r.listedUnder uids ↔ m ∈ r.codemods ∧ m.uid ∈ uids := by
  simp [listedUnder]

theorem listedUnder_congr {uids uids' : List String} (h : ∀ uid, uid ∈ uids ↔ uid ∈ uids') :
    r.listedUnder uids = r.listedUnder uids' := by
  refine List.filter_congr fun m _ => ?_
  rw [Bool.eq_iff_iff, List.contains_iff_mem, List.contains_iff_mem]
  exact h m.uid

/-- A uid finds the first codemod that is listed under it. -/
theorem withUid?_eq_head? (r : Repository) (uid : String) :
    r.withUid? uid = (r.listedUnder [uid]).head? := by
  have hsame : (fun m : Codemod => decide (m.uid = uid)) = fun m => [uid].contains m.uid := by
    funext m
    simp
  rw [listedUnder, List.head?_filter, withUid?, hsame]

end

/-- **The queries of a loaded repository agree with each other.** The versions that a range finds are a
    block of all versions, namely the versions in the range; each comes with the codemods that the
    version finds, and the number of codemods in the range is the sum of the numbers for these versions.
    Uids find one collection for each codemod with one of them: the codemods ascend in the order of the
    repository, and neither a range nor the order or the repetition of the uids shows. A single uid finds
    the codemod in the first of these collections, and nothing exactly if there is none. -/
theorem queries_agree {t : Tree} {root : Path} {r : Repository} (ht : t.wellFormed = true)
    (hload : load t root = .ok r) :
    (∀ range : Range, let found := r.find { range := some range }
      (∃ front back, r.versions = front ++ found.map (·.version) ++ back ∧
        (∀ v ∈ found.map (·.version), range.contains v = true) ∧
        ∀ v ∈ front ++ back, range.contains v = false) ∧
      (∀ c ∈ found, c.codemods = r.ofVersion c.version) ∧
      r.countIn range = (found.map fun c => r.count c.version).foldr (· + ·) 0) ∧
    (∀ (uids : List String) (range : Option Range), ∃ ms : List Codemod,
      r.find { range, uids := some uids } = ms.map (fun m => ⟨m.version, [m]⟩) ∧
      (ms.Pairwise fun a b => a.order b = .lt) ∧
      (∀ m, m ∈ ms ↔ m ∈ r.ofVersion m.version ∧ m.uid ∈ uids) ∧
      ∀ (uids' : List String) (range' : Option Range), (∀ uid, uid ∈ uids' ↔ uid ∈ uids) →
        r.find { range := range', uids := some uids' } = r.find { range, uids := some uids }) ∧
    (∀ uid : String, let found := r.find { uids := some [uid] }
      r.withUid? uid = found.head?.bind (·.codemods.head?) ∧ (r.withUid? uid = none ↔ found = [])) := by
  have hr := listed_of_load ht hload
  have hfind : ∀ (uids : List String) (range : Option Range), r.find { range, uids := some uids }
      = (r.listedUnder uids).map fun m => ⟨m.version, [m]⟩ := fun _ _ => rfl
  refine ⟨fun range => ?_, fun uids range => ?_, fun uid => ?_⟩
  · intro found
    have hmem : ∀ c ∈ found, c ∈ r.collections ∧ range.contains c.version = true := by
      intro c hc
      exact List.mem_filter.1 hc
    obtain ⟨front, back, hblock, hout⟩ := hr.find_inRange_block range
    refine ⟨⟨front, back, hblock, ?_, hout⟩, fun c hc => ?_, hr.countIn_eq range⟩
    · intro v hv
      obtain ⟨c, hc, rfl⟩ := List.mem_map.1 hv
      exact (hmem c hc).2
    · exact (hr.ofVersion_eq (hmem c hc).1).symm
  · refine ⟨r.listedUnder uids, hfind uids range, ?_, fun m => ?_, fun uids' range' hsame => ?_⟩
    · exact hr.codemods_pairwise.sublist List.filter_sublist
    · rw [mem_listedUnder, hr.mem_codemods_iff]
    · rw [hfind, hfind, listedUnder_congr hsame]
  · intro found
    have hfound : found = (r.listedUnder [uid]).map fun m => ⟨m.version, [m]⟩ := hfind [uid] none
    rw [withUid?_eq_head?, hfound]
    cases r.listedUnder [uid] <;> simp

/-- The patch of a prerelease of version 2.0.0. -/
def firstRung : Codemod :=
  ⟨.document, ⟨2, 0, 0, [.word ⟨"rc", rfl⟩], []⟩, ⟨"/codemods/2.0.0-rc"⟩, "b.document.json"⟩

/-- A disk with versions that differ in their tag or build metadata alone, and two patches that have one
    uid. -/
def ladder : Tree :=
  .dir [("codemods", .dir [
    ("3.0.0", .dir []),
    ("2.0.0+7", .dir [("z.code.ts", .file (.text ""))]),
    ("2.0.0", .dir [("rc-b.document.json", .file (.text "[]"))]),
    ("1.0.0", .dir [("z.code.ts", .file (.text ""))]),
    ("2.0.0-rc", .dir [("b.document.json", .file (.text "[]"))])])]

/-- What is loaded from it. -/
def ladderLoaded : Repository where
  root := ⟨"/codemods"⟩
  collections := [
    ⟨.release 1 0 0, [⟨.code, .release 1 0 0, ⟨"/codemods/1.0.0"⟩, "z.code.ts"⟩]⟩,
    ⟨firstRung.version, [firstRung]⟩,
    ⟨.release 2 0 0, [patchFor "rc-b.document.json"]⟩,
    ⟨⟨2, 0, 0, [], [⟨"7", rfl⟩]⟩,
      [⟨.code, ⟨2, 0, 0, [], [⟨"7", rfl⟩]⟩, ⟨"/codemods/2.0.0+7"⟩, "z.code.ts"⟩]⟩,
    ⟨.release 3 0 0, []⟩]

/-- A range from the prerelease on finds three versions with three codemods. The uid that two patches
    share finds both of them, also when it is given twice and with a range that has neither, and by itself
    it finds the one that is listed first. -/
theorem queries_agree_ladder :
    let r := ladderLoaded
    let range : Range := ⟨some ⟨firstRung.version, true⟩, some ⟨.release 3 0 0, false⟩⟩
    let uid := firstRung.uid
    ladder.wellFormed = true ∧ load ladder ⟨"/codemods"⟩ = .ok r ∧
      (∃ front back, r.versions = front ++ (r.find { range := some range }).map (·.version) ++ back) ∧
      r.countIn range = 3 ∧
      r.find { range := some (.after (.release 9 0 0)), uids := some [uid, uid] }
        = [⟨firstRung.version, [firstRung]⟩, ⟨.release 2 0 0, [patchFor "rc-b.document.json"]⟩] ∧
      r.withUid? uid = some firstRung := by
  intro r range uid
  have hdisk : ladder.wellFormed = true := by decide
  have hload : load ladder ⟨"/codemods"⟩ = .ok r := rfl
  obtain ⟨hranges, huids, huid⟩ := queries_agree hdisk hload
  obtain ⟨⟨front, back, hblock, -, -⟩, -, hcount⟩ := hranges range
  obtain ⟨-, -, -, -, hsame⟩ := huids [uid] none
  refine ⟨hdisk, hload, ⟨front, back, hblock⟩, hcount.trans (by decide), ?_,
    (huid uid).1.trans (by decide)⟩
  exact (hsame [uid, uid] _ (by simp)).trans (by decide)

end Repository

end Uplift
