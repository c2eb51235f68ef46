import Mathlib.Data.List.Basic
import Uplift.Proofs.Sort
import Uplift.Proofs.Tree.Names

set_option autoImplicit false

/-! # Paths below a directory, and the order of paths

Names that are added to the path of a directory, one after the other, lead down into it
(`Tree.place?_below`), and they are what the components of the new path have more than those of the old
one (`components_below`). So two such paths have the same components only if they are made of the same
names, and then they are one path. In no tree do different names lead to the same place
(`Tree.place?_below_inj`).

Paths are ordered by their components. In this order paths are equal if they have the same components. -/

namespace Uplift

open Std Text

namespace Path

/-! ## Order -/

/-- The text that names are compared by. -/
def Component.text : Component → String
  | .name s => s
  | _ => ""

theorem Component.cmp_eq :
    Component.cmp = compareLex (compareOn Component.cmp.rank) (compareOn Component.text) := by
  funext s t
  cases s <;> cases t <;> rfl

instance : TransCmp Component.cmp := by
  rw [Component.cmp_eq]
  infer_instance

instance : LawfulEqCmp Component.cmp where
  compare_self := ReflCmp.compare_self
  eq_of_compare {s t} h := by
    simp only [Component.cmp_eq, compareLex_eq_eq, compareOn, Std.compare_eq_iff_eq] at h
    obtain ⟨hrank, htext⟩ := h
    -- steps of one kind differ in their names alone
    cases s <;> cases t <;> simp_all [Component.cmp.rank, Component.text]

instance : TransCmp Path.cmp := transCmp_on (List.compareLex Component.cmp) components

theorem cmp_eq_eq_iff {p q : Path} : p.cmp q = .eq ↔ p.components = q.components := by
  rw [Path.cmp, LawfulEqCmp.compare_eq_iff_eq]

theorem same_iff {p q : Path} : p.same q = true ↔ p.cmp q = .eq := by
  rw [cmp_eq_eq_iff, same, beq_iff_eq]

/-! ## Names below a path -/

/-- The path that leads from `p` down these names. -/
def below (p : Path) (names : List String) : Path := names.foldl child p

@[simp] theorem below_nil (p : Path) : p.below [] = p := rfl

@[simp] theorem below_cons (p : Path) (name : String) (names : List String) :
    p.below (name :: names) = (p.child name).below names := rfl

theorem innerComponent_of_isName {name : String} (h : Tree.isName name = true) :
    innerComponent name.toList = some (.name name) := by
  simp only [Tree.isName, Bool.and_eq_true, decide_eq_true_eq, ne_eq] at h
  obtain ⟨⟨⟨hempty, hdot⟩, hdots⟩, -⟩ := h
  simp [innerComponent, hempty, hdot, hdots]

theorem components_of_isName {name : String} (h : Tree.isName name = true) :
    (Path.mk name).components = [.name name] := by
  have hhere : name.toList ≠ ['.'] := by
    simp only [Tree.isName, Bool.and_eq_true, decide_eq_true_eq, ne_eq] at h
    exact h.1.1.2
  simp [components, Tree.isAbsolute_of_isName h, splitAt_of_notMem (Tree.slash_notMem_of_isName h),
    innerComponent_of_isName h, hhere]

/-- The extension of a name is what stands after its last dot, if that is not its first character. -/
theorem extension?_of_isName {name : String} {front ext : List Char} (h : Tree.isName name = true)
    (hname : name.toList = front ++ '.' :: ext) (hfront : front ≠ []) (hext : '.' ∉ ext) :
    (Path.mk name).extension? = some (String.ofList ext) := by
  obtain ⟨c, cs, rfl⟩ := List.exists_cons_of_ne_nil hfront
  have hcut : splitLast '.' name.toList = some (c :: cs, ext) := by rw [hname, splitLast_append hext]
  simp [extension?, fileName?, components_of_isName h, extensionOf?, hcut]

/-- The pieces of a path with a name added are those of the path without a slash at its end, and the
    name. -/
theorem splitAt_child {p : Path} {name : String} (hp : p.isAbsolute = true)
    (hname : Tree.isName name = true) :
    ∃ front, Text.splitAt '/' (p.child name).text.toList = Text.splitAt '/' front ++ [name.toList] ∧
      (Text.splitAt '/' p.text.toList = Text.splitAt '/' front ∨
        Text.splitAt '/' p.text.toList = Text.splitAt '/' front ++ [[]]) := by
  obtain ⟨front, hchild, hfront⟩ := Tree.toList_child hp hname
  refine ⟨front, ?_, ?_⟩
  · rw [hchild, splitAt_append_cons, splitAt_of_notMem (Tree.slash_notMem_of_isName hname)]
  · rcases hfront with hfront | hfront
    · exact Or.inl (by rw [hfront])
    · refine Or.inr ?_
      rw [hfront, splitAt_append_cons]
      rfl

theorem components_child {p : Path} {name : String} (hp : p.isAbsolute = true)
    (hname : Tree.isName name = true) :
    (p.child name).components = p.components ++ [.name name] := by
  obtain ⟨front, hchild, hfront⟩ := splitAt_child hp hname
  have habsolute : (p.child name).isAbsolute = true := (Tree.isAbsolute_child p hname).trans hp
  have hempty : innerComponent [] = none := rfl
  simp only [components, habsolute, hp, hchild, List.filterMap_append, ↓reduceIte, List.cons_append]
  rcases hfront with hfront | hfront
  · simp [hfront, innerComponent_of_isName hname]
  · simp [hfront, hempty, innerComponent_of_isName hname]

theorem components_below {p : Path} {names : List String} (hp : p.isAbsolute = true)
    (hnames : ∀ name ∈ names, Tree.isName name = true) :
    (p.below names).components = p.components ++ names.map .name := by
  induction names generalizing p with
  | nil => simp
  | cons name names ih =>
    obtain ⟨hname, hnames⟩ := List.forall_mem_cons.1 hnames
    rw [below_cons, ih ((Tree.isAbsolute_child p hname).trans hp) hnames, components_child hp hname]
    simp

theorem below_of_cmp_eq {p : Path} {names names' : List String} (hp : p.isAbsolute = true)
    (hnames : ∀ name ∈ names, Tree.isName name = true)
    (hnames' : ∀ name ∈ names', Tree.isName name = true)
    (h : (p.below names).cmp (p.below names') = .eq) : names = names' := by
  rw [cmp_eq_eq_iff, components_below hp hnames, components_below hp hnames',
    List.append_cancel_left_eq] at h
  exact (List.map_inj_right fun _ _ hname => Component.name.inj hname).1 h

/-! ## Pieces below a path -/

theorem isIdle_iff {piece : List Char} : isIdle piece = true ↔ innerComponent piece = none := by
  unfold isIdle innerComponent
  rw [decide_eq_true_eq]
  split
  · simp_all
  · split <;> simp_all

theorem isIdle_of_isName {name : String} (h : Tree.isName name = true) :
    isIdle name.toList = false := by
  rw [Bool.eq_false_iff]
  intro hidle
  rw [isIdle_iff, innerComponent_of_isName h] at hidle
  cases hidle

/-- After as many steps as pieces stand for, what is left of them stands for none. -/
theorem dropSteps_append (pieces rest : List (List Char)) :
    ∃ idle, (∀ piece ∈ idle, isIdle piece = true) ∧
      dropSteps (pieces.filterMap innerComponent).length (pieces ++ rest) = idle ++ rest := by
  induction pieces with
  | nil => exact ⟨[], by simp, by simp [dropSteps]⟩
  | cons piece pieces ih =>
    obtain ⟨idle, hidle, hdrop⟩ := ih
    cases hstep : innerComponent piece with
    | none =>
      have hpiece : isIdle piece = true := isIdle_iff.2 hstep
      rw [List.filterMap_cons_none hstep]
      cases hcount : (pieces.filterMap innerComponent).length with
      | zero =>
        -- no step is left, so that the pieces stay
        refine ⟨piece :: pieces, ?_, by simp [dropSteps]⟩
        have hnone := List.filterMap_eq_nil_iff.1 (List.length_eq_zero_iff.1 hcount)
        exact List.forall_mem_cons.2 ⟨hpiece, fun q hq => isIdle_iff.2 (hnone q hq)⟩
      | succ n =>
        rw [hcount] at hdrop
        refine ⟨idle, hidle, ?_⟩
        rw [List.cons_append, dropSteps, if_pos hpiece, hdrop]
    | some step =>
      have hpiece : ¬ isIdle piece = true := by
        rw [isIdle_iff, hstep]
        simp
      refine ⟨idle, hidle, ?_⟩
      rw [List.filterMap_cons_some hstep, List.length_cons, List.cons_append, dropSteps, if_neg hpiece,
        hdrop]

theorem piecesBelow?_child {p : Path} {name : String} (hp : p.isAbsolute = true)
    (hname : Tree.isName name = true) : (p.child name).piecesBelow? p = some [name.toList] := by
  have habsolute : (p.child name).isAbsolute = true := (Tree.isAbsolute_child p hname).trans hp
  have hbelow : ((p.child name).below? p).isSome = true := by
    rw [below?, components_child hp hname, List.isPrefixOf?_eq_some_iff_append_eq.2 rfl]
    rfl
  obtain ⟨front, hchild, hfront⟩ := splitAt_child hp hname
  -- the piece in front of the first slash is empty
  obtain ⟨pieces, hpieces⟩ : ∃ pieces, Text.splitAt '/' front = [] :: pieces := by
    obtain ⟨rest, htext⟩ := Tree.isAbsolute_iff.1 hp
    have hslash : Text.splitAt '/' p.text.toList = [] :: Text.splitAt '/' rest := by
      rw [htext]
      exact splitAt_append_cons '/' [] rest
    obtain ⟨first, pieces, hsplit⟩ :=
      List.exists_cons_of_ne_nil (splitWhere_ne_nil (· == '/') front)
    have hsplit : Text.splitAt '/' front = first :: pieces := hsplit
    refine ⟨pieces, ?_⟩
    rcases hfront with hfront | hfront <;> rw [hslash, hsplit] at hfront
    · rw [hsplit, (List.cons.inj hfront).1]
    · rw [hsplit, (List.cons.inj hfront).1]
  have hsteps : p.components.length - 1 = (pieces.filterMap innerComponent).length := by
    have hempty : innerComponent [] = none := rfl
    simp only [components, hp, ↓reduceIte, List.length_cons, Nat.add_sub_cancel]
    rcases hfront with hfront | hfront <;> simp [hfront, hpieces, hempty]
  obtain ⟨idle, hidle, hdrop⟩ := dropSteps_append pieces [name.toList]
  have hbusy := isIdle_of_isName hname
  simp only [piecesBelow?, habsolute, hbelow, Bool.and_self, ↓reduceIte, hchild, hpieces,
    List.cons_append, List.tail_cons, hsteps, hdrop]
  rw [List.dropWhile_append_of_pos hidle]
  simp [dropIdle, hbusy]

end Path

namespace Tree

variable {t : Tree} {p : Path} {names : List String}

theorem place?_below {place : List String} (hnames : ∀ name ∈ names, isName name = true)
    (h : t.place? (p.below names) = some place) :
    ∃ base, t.place? p = some base ∧ place = base ++ names := by
  induction names generalizing p with
  | nil => exact ⟨place, h, by simp⟩
  | cons name names ih =>
    obtain ⟨hname, hnames⟩ := List.forall_mem_cons.1 hnames
    obtain ⟨base, hbase, rfl⟩ := ih hnames h
    rw [place?_child_eq t p hname] at hbase
    obtain ⟨above, habove, hstep⟩ := Option.bind_eq_some_iff.1 hbase
    split at hstep
    · obtain rfl := Option.some.inj hstep
      exact ⟨above, habove, by simp⟩
    · cases hstep

/-- **Different names below a path lead to different places.** -/
theorem place?_below_inj {names' : List String} {place : List String}
    (hnames : ∀ name ∈ names, isName name = true) (hnames' : ∀ name ∈ names', isName name = true)
    (h : t.place? (p.below names) = some place) (h' : t.place? (p.below names') = some place) :
    names = names' := by
  obtain ⟨base, hbase, rfl⟩ := place?_below hnames h
  obtain ⟨base', hbase', hsame⟩ := place?_below hnames' h'
  obtain rfl : base = base' := Option.some.inj (hbase.symm.trans hbase')
  exact List.append_cancel_left hsame

/-- Names that a place does not end in do not lead there. -/
theorem place?_below_ne {place : List String} (hnames : ∀ name ∈ names, isName name = true)
    (h : ¬ names <:+ place) (t : Tree) (p : Path) : t.place? (p.below names) ≠ some place := by
  intro hplace
  obtain ⟨base, -, rfl⟩ := place?_below hnames hplace
  exact h (List.suffix_append base names)

theorem isName_of_get? {node : Tree} (ht : t.wellNamed = true) (h : t.get? names = some node) :
    ∀ name ∈ names, isName name = true := by
  induction names generalizing t with
  | nil => simp
  | cons name names ih =>
    cases t with
    | file c => simp at h
    | dir entries =>
      rw [get?_dir_cons] at h
      obtain ⟨child, hchild, h⟩ := Option.bind_eq_some_iff.1 h
      obtain ⟨hname, hnamed⟩ := (wellNamed_dir_iff entries).1 ht _ (Fields.mem_of_get? hchild)
      exact List.forall_mem_cons.2 ⟨hname, ih hnamed h⟩

end Tree

end Uplift
