import Mathlib.Data.List.Basic
import Mathlib.Data.List.Perm.Basic

set_option autoImplicit false

/-! # Lists and options

What the library does not have on lists that are ordered, filtered, joined with separators or read
piece by piece, and on options as lists of at most one element. -/

namespace Uplift

variable {α β : Type}

/-! ## Ordered lists -/

/-- Any two members of an ordered list are ordered one way or the other. -/
theorem rel_or_eq_or_rel {R : α → α → Prop} {xs : List α} (h : xs.Pairwise R) {a b : α}
    (ha : a ∈ xs) (hb : b ∈ xs) : R a b ∨ a = b ∨ R b a := by
  induction h with
  | nil => cases ha
  | cons hx hxs ih =>
    rcases List.mem_cons.1 ha with rfl | ha'
    · rcases List.mem_cons.1 hb with rfl | hb'
      · exact Or.inr (Or.inl rfl)
      · exact Or.inl (hx b hb')
    · rcases List.mem_cons.1 hb with rfl | hb'
      · exact Or.inr (Or.inr (hx a ha'))
      · exact ih ha' hb'

/-- A list is ordered if each element is ordered with all that come before it. -/
theorem pairwise_iff_before {R : α → α → Prop} {xs : List α} : xs.Pairwise R ↔
    ∀ front b rest, xs = front ++ b :: rest → ∀ a ∈ front, R a b := by
  constructor
  · rintro h front b rest rfl a ha
    exact (List.pairwise_append.1 h).2.2 a ha b List.mem_cons_self
  · intro h
    induction xs with
    | nil => exact List.Pairwise.nil
    | cons x xs ih =>
      refine List.pairwise_cons.2 ⟨fun b hb => ?_, ih fun front b rest hxs a ha => ?_⟩
      · obtain ⟨front, rest, rfl⟩ := List.append_of_mem hb
        exact h (x :: front) b rest rfl x List.mem_cons_self
      · exact h (x :: front) b rest (by rw [hxs]; rfl) a (List.mem_cons_of_mem x ha)

/-- In an ordered list, a search that `c` satisfies finds `c` unless something before it satisfies the
    search as well. -/
theorem find?_eq_some_iff_of_pairwise {R : α → α → Prop} (hasymm : ∀ a b, R a b → ¬ R b a)
    {xs : List α} (h : xs.Pairwise R) {p : α → Bool} {c : α} (hc : c ∈ xs) (hpc : p c = true) :
    xs.find? p = some c ↔ ∀ d ∈ xs, R d c → p d = false := by
  induction h with
  | nil => cases hc
  | @cons x xs hx hxs ih =>
    cases hpx : p x with
    | true =>
      rw [List.find?_cons_of_pos hpx, Option.some.injEq]
      constructor
      · rintro rfl d hd hdc
        rcases List.mem_cons.1 hd with rfl | hd
        · exact absurd hdc (hasymm d d hdc)
        · exact absurd hdc (hasymm x d (hx d hd))
      · intro hbefore
        rcases List.mem_cons.1 hc with rfl | hc
        · rfl
        · -- then `x` comes before `c` and is found first
          rw [hbefore x List.mem_cons_self (hx c hc)] at hpx
          cases hpx
    | false =>
      have hne : c ≠ x := by
        rintro rfl
        rw [hpc] at hpx
        cases hpx
      have hcs : c ∈ xs := (List.mem_cons.1 hc).resolve_left hne
      rw [List.find?_cons_of_neg (by simp [hpx]), ih hcs]
      simp [hpx]

/-! ## Filters -/

/-- If whatever comes before something that is kept is kept as well, the kept part is the front. -/
theorem exists_front {p : α → Bool} {xs : List α}
    (h : xs.Pairwise fun a b => p b = true → p a = true) :
    ∃ back, xs = xs.filter p ++ back ∧ ∀ x ∈ back, p x = false := by
  induction xs with
  | nil => exact ⟨[], rfl, by simp⟩
  | cons x xs ih =>
    obtain ⟨hx, hxs⟩ := List.pairwise_cons.1 h
    by_cases hpx : p x = true
    · obtain ⟨back, hsplit, hout⟩ := ih hxs
      refine ⟨back, ?_, hout⟩
      rw [List.filter_cons_of_pos hpx, List.cons_append, ← hsplit]
    · have hout : ∀ y ∈ x :: xs, ¬ p y = true := by
        intro y hy hpy
        rcases List.mem_cons.1 hy with rfl | hy
        · exact hpx hpy
        · exact hpx (hx y hy hpy)
      refine ⟨x :: xs, ?_, by simpa using hout⟩
      rw [List.filter_eq_nil_iff.2 hout, List.nil_append]

/-- **What a convex test keeps of an ordered list is a block of it**, and nothing outside of the block
    passes the test. -/
theorem exists_block_of_convex {R : α → α → Prop} {p : α → Bool}
    (hconvex : ∀ a b c, R a b → R b c → p a = true → p c = true → p b = true) {xs : List α}
    (h : xs.Pairwise R) : ∃ front back, xs = front ++ xs.filter p ++ back ∧
      ∀ x ∈ front ++ back, p x = false := by
  induction xs with
  | nil => exact ⟨[], [], rfl, by simp⟩
  | cons x xs ih =>
    obtain ⟨hx, hxs⟩ := List.pairwise_cons.1 h
    by_cases hpx : p x = true
    · -- the block starts here, so from here on it is a front
      have hfront : (x :: xs).Pairwise fun a b => p b = true → p a = true := by
        refine List.pairwise_cons.2 ⟨fun _ _ _ => hpx, ?_⟩
        refine hxs.imp_of_mem fun {a b} ha _ hab hpb => ?_
        exact hconvex x a b (hx a ha) hab hpx hpb
      obtain ⟨back, hsplit, hout⟩ := exists_front hfront
      exact ⟨[], back, hsplit, hout⟩
    · obtain ⟨front, back, hblock, hout⟩ := ih hxs
      refine ⟨x :: front, back, ?_, ?_⟩
      · rw [List.filter_cons_of_neg hpx, List.cons_append, List.cons_append, ← hblock]
      · simpa [hpx] using hout

/-- Where nothing that is taken second stands before something that is taken first, taking both is
    taking one and then the other. -/
theorem filter_or_eq_append {first second : α → Bool} {xs : List α}
    (hdisjoint : ∀ x ∈ xs, first x = true → second x = false)
    (horder : xs.Pairwise fun x y => second x = true → first y = false) :
    xs.filter (fun x => first x || second x) = xs.filter first ++ xs.filter second := by
  induction xs with
  | nil => rfl
  | cons x xs ih =>
    obtain ⟨hx, hxs⟩ := List.pairwise_cons.1 horder
    have ih := ih (fun y hy => hdisjoint y (List.mem_cons_of_mem x hy)) hxs
    cases hfirst : first x with
    | true =>
      have hsecond := hdisjoint x List.mem_cons_self hfirst
      simp [hfirst, hsecond, ih]
    | false =>
      cases hsecond : second x with
      | false => simp [hfirst, hsecond, ih]
      | true =>
        -- from here on nothing is taken first
        have hnone : xs.filter first = [] :=
          List.filter_eq_nil_iff.2 fun y hy => by rw [hx y hy hsecond]; exact Bool.false_ne_true
        rw [hnone, List.nil_append] at ih
        simp [hfirst, hsecond, ih, hnone]

/-- What a test keeps of a list without repetitions is the part whose members pass it. -/
theorem filter_eq_of_sublist {p : α → Bool} {part xs : List α} (hpart : part.Sublist xs)
    (hxs : xs.Nodup) (hp : ∀ x ∈ xs, p x = true ↔ x ∈ part) : xs.filter p = part := by
  induction hpart with
  | slnil => rfl
  | @cons part xs x hpart ih =>
    obtain ⟨hx, hxs⟩ := List.nodup_cons.1 hxs
    simp only [List.mem_cons, forall_eq_or_imp] at hp
    have hout : ¬ p x = true := fun hpx => hx (hpart.subset (hp.1.1 hpx))
    rw [List.filter_cons_of_neg hout, ih hxs hp.2]
  | @cons_cons part xs x hpart ih =>
    obtain ⟨hx, hxs⟩ := List.nodup_cons.1 hxs
    simp only [List.mem_cons, forall_eq_or_imp, true_or, iff_true] at hp
    have hrest : ∀ y ∈ xs, p y = true ↔ y ∈ part := by
      intro y hy
      have hne : y ≠ x := fun heq => hx (heq ▸ hy)
      simpa [hne] using hp.2 y hy
    rw [List.filter_cons_of_pos hp.1, ih hxs hrest]

/-! ## Joined pieces -/

section

variable {sep : α} {pieces : List (List α)}

/-- Pieces that have no separator are cut at a separator only between two of them. -/
theorem intercalate_eq_append_cons (h : ∀ piece ∈ pieces, sep ∉ piece) {x y : List α}
    (heq : [sep].intercalate pieces = x ++ sep :: y) :
    ∃ before after, before ≠ [] ∧ after ≠ [] ∧ pieces = before ++ after ∧
      [sep].intercalate before = x ∧ [sep].intercalate after = y := by
  induction pieces generalizing x with
  | nil => simp at heq
  | cons piece rest ih =>
    obtain ⟨hpiece, hrest⟩ := List.forall_mem_cons.1 h
    cases rest with
    | nil =>
      rw [List.intercalate_singleton] at heq
      exact absurd (heq ▸ by simp) hpiece
    | cons next rest =>
      rw [List.intercalate_cons_cons, List.append_assoc, List.singleton_append] at heq
      rcases List.append_eq_append_iff.1 heq with ⟨mid, hx, hmid⟩ | ⟨mid, hp, hmid⟩
      · cases mid with
        | nil =>
          -- the cut is right behind the first piece
          obtain ⟨-, hy⟩ := List.cons.inj hmid
          exact ⟨[piece], next :: rest, by simp, by simp, rfl, by simpa using hx.symm, hy⟩
        | cons c mid =>
          obtain ⟨rfl, hcut⟩ := List.cons.inj hmid
          obtain ⟨before, after, hbefore, hafter, hsplit, hleft, hright⟩ := ih hrest hcut
          refine ⟨piece :: before, after, by simp, hafter, by rw [hsplit]; rfl, ?_, hright⟩
          obtain ⟨first, more, rfl⟩ := List.exists_cons_of_ne_nil hbefore
          rw [List.intercalate_cons_cons, hleft, hx]
          simp
      · cases mid with
        | nil =>
          obtain ⟨-, hy⟩ := List.cons.inj hmid
          exact ⟨[piece], next :: rest, by simp, by simp, rfl, by simpa using hp, hy.symm⟩
        | cons c mid =>
          obtain ⟨rfl, -⟩ := List.cons.inj hmid
          exact absurd (hp ▸ by simp) hpiece

theorem eq_singleton_of_intercalate (hne : pieces ≠ []) {x : List α} (hx : sep ∉ x)
    (heq : [sep].intercalate pieces = x) : pieces = [x] := by
  cases pieces with
  | nil => exact absurd rfl hne
  | cons piece rest =>
    cases rest with
    | nil => rw [← heq, List.intercalate_singleton]
    | cons next rest =>
      rw [List.intercalate_cons_cons] at heq
      exact absurd (heq ▸ by simp) hx

theorem intercalate_append {before rest : List (List α)} (hbefore : before ≠ []) (hrest : rest ≠ []) :
    [sep].intercalate (before ++ rest) = [sep].intercalate before ++ sep :: [sep].intercalate rest := by
  obtain ⟨next, rest, rfl⟩ := List.exists_cons_of_ne_nil hrest
  induction before with
  | nil => exact absurd rfl hbefore
  | cons piece before ih =>
    cases before with
    | nil => simp [List.intercalate_cons_cons]
    | cons second before =>
      rw [List.cons_append, List.cons_append, List.intercalate_cons_cons, ← List.cons_append,
        ih (List.cons_ne_nil second before), List.intercalate_cons_cons]
      simp

/-- A separator that does not occur later cuts a list in one way only. -/
theorem append_sep_inj {a a' b b' : List α} (hb : sep ∉ b) (hb' : sep ∉ b')
    (h : a ++ sep :: b = a' ++ sep :: b') : a = a' ∧ b = b' := by
  rcases List.append_eq_append_iff.1 h with ⟨rest, rfl, hrest⟩ | ⟨rest, rfl, hrest⟩
  · cases rest with
    | nil => simpa using hrest
    | cons c rest =>
      obtain ⟨-, rfl⟩ := List.cons.inj hrest
      exact absurd (List.mem_append_right rest List.mem_cons_self) hb
  · cases rest with
    | nil => simpa [eq_comm] using hrest
    | cons c rest =>
      obtain ⟨-, rfl⟩ := List.cons.inj hrest
      exact absurd (List.mem_append_right rest List.mem_cons_self) hb'

theorem suffix_intercalate (sep : α) (pieces : List (List α)) (last : List α) :
    last <:+ [sep].intercalate (pieces ++ [last]) := by
  by_cases hnil : pieces = []
  · simp [hnil]
  · rw [intercalate_append hnil (List.cons_ne_nil last []), List.intercalate_singleton]
    exact (List.suffix_cons sep last).trans (List.suffix_append _ _)

end

/-! ## Pieces that are read -/

/-- A reader that only undoes a printer, on a list of pieces. -/
theorem map_of_mapM_eq_some {read : α → Option β} {print : β → α}
    (hread : ∀ a b, read a = some b → print b = a) {as : List α} {bs : List β}
    (h : as.mapM read = some bs) : bs.map print = as := by
  induction as generalizing bs with
  | nil =>
    obtain rfl : bs = [] := by simpa using h.symm
    rfl
  | cons a as ih =>
    simp only [List.mapM_cons, Option.bind_eq_bind, Option.bind_eq_some_iff, Option.pure_def,
      Option.some.injEq] at h
    obtain ⟨b, ha, bs', has, rfl⟩ := h
    rw [List.map_cons, hread a b ha, ih has]

/-- A reader that undoes a printer, on a list of printed pieces. -/
theorem mapM_map_eq_some {read : α → Option β} {print : β → α} {bs : List β}
    (hread : ∀ b ∈ bs, read (print b) = some b) : (bs.map print).mapM read = some bs := by
  induction bs with
  | nil => rfl
  | cons b bs ih =>
    simp only [List.mem_cons, forall_eq_or_imp] at hread
    simp [List.mapM_cons, hread.1, ih hread.2]

/-! ## Options as lists -/

theorem toList_append_eq_iff {slot new slot' : Option α} :
    slot.toList ++ new.toList = slot'.toList ↔
      (slot = none ∨ new = none) ∧ slot.or new = slot' := by
  cases slot <;> cases new <;> cases slot' <;> simp

theorem eq_of_toList_eq {o o' : Option α} (h : o.toList = o'.toList) : o = o' := by
  cases o <;> cases o' <;> simp_all

theorem exists_eq_toList_iff {as : List α} :
    (∃ slot : Option α, as = slot.toList) ↔ as.length ≤ 1 := by
  constructor
  · rintro ⟨slot, rfl⟩
    exact Option.length_toList_le
  · intro hlength
    cases as with
    | nil => exact ⟨none, rfl⟩
    | cons a as =>
      have hnil : as = [] := List.eq_nil_of_length_eq_zero (by simpa using hlength)
      exact ⟨some a, by rw [hnil]; rfl⟩

theorem exists_of_append_eq_toList {as bs : List α} {o : Option α}
    (h : as ++ bs = o.toList) : ∃ slot : Option α, as = slot.toList := by
  have hlength : (as ++ bs).length ≤ 1 := exists_eq_toList_iff.1 ⟨o, h⟩
  rw [List.length_append] at hlength
  exact exists_eq_toList_iff.2 (by omega)

/-- What holds of an option that has all that was found holds of everything that was found. -/
theorem all_iff_of_filterMap {f : β → Option α} {bs : List β} {slot : Option α} {p : α → Bool}
    (h : bs.filterMap f = slot.toList) : slot.all p = true ↔ ∀ b ∈ bs, (f b).all p = true := by
  have hslot : slot.all p = true ↔ ∀ a ∈ bs.filterMap f, p a = true := by
    rw [h]
    cases slot <;> simp
  rw [hslot]
  simp only [List.mem_filterMap, Option.all_eq_true]
  constructor
  · intro hall b hb a ha
    exact hall a ⟨b, hb, ha⟩
  · rintro hall a ⟨b, hb, ha⟩
    exact hall b hb a ha

theorem eq_toList_of_perm {as bs : List α} {slot : Option α} (h : as = slot.toList)
    (hperm : as.Perm bs) : bs = slot.toList := by
  rw [h] at hperm
  cases slot with
  | none => exact List.nil_perm.1 hperm
  | some a => exact List.singleton_perm.1 hperm |>.symm

/-! ## Maxima -/

theorem foldl_max_ones {ns : List Nat} (h : ∀ n ∈ ns, n = 1) : ns.foldl max 1 = 1 := by
  induction ns with
  | nil => rfl
  | cons n ns ih =>
    simp only [List.mem_cons, forall_eq_or_imp] at h
    rw [List.foldl_cons, h.1]
    exact ih h.2

end Uplift
