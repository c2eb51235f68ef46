import Uplift.Proofs.Tree

set_option autoImplicit false

/-! # Names and the paths below a directory

On a disk a name is a text that a path can have between two slashes: it has no slash itself, and it is
none of the pieces that lead nowhere or back. For such a name the path of a directory with the name
added leads to the entry of that name (`lookup_child_eq`), however the path of the directory is
written. -/

namespace Uplift

open Text

namespace Tree

/-! ## Names -/

/-- Whether a text can be a name in a directory: it is not empty, it is neither `.` nor `..`, and it
    has no slash. -/
def isName (s : String) : Bool :=
  s.toList ≠ [] && s.toList ≠ ['.'] && s.toList ≠ ['.', '.'] && !s.toList.contains '/'

mutual

/-- Whether all names in a tree can be names, as on any disk. -/
def wellNamed : Tree → Bool
  | .file _ => true
  | .dir entries => wellNamedIn entries

/-- Whether the names in a list of entries, and those below them, can be names. -/
def wellNamedIn : List (String × Tree) → Bool
  | [] => true
  | (s, t) :: rest => isName s && wellNamed t && wellNamedIn rest

end

theorem wellNamed_dir_iff (entries : List (String × Tree)) :
    (dir entries).wellNamed = true ↔ ∀ e ∈ entries, isName e.1 = true ∧ e.2.wellNamed = true := by
  rw [wellNamed]
  induction entries with
  | nil => simp [wellNamedIn]
  | cons e rest ih =>
    obtain ⟨s, t⟩ := e
    simp [wellNamedIn, ih]

theorem wellNamed_of_lookup {t t' : Tree} {p : Path} (ht : t.wellNamed = true)
    (h : t.lookup p = some t') : t'.wellNamed = true := by
  obtain ⟨place, -, hplace⟩ := Option.bind_eq_some_iff.1 h
  exact holds_of_get? (P := fun t => t.wellNamed = true)
    (fun entries h e he => ((wellNamed_dir_iff entries).1 h e he).2) ht hplace

/-! ## Pieces of paths -/

theorem follow_append (t : Tree) (back : List String) (pieces more : List (List Char)) :
    t.follow back (pieces ++ more)
      = (t.follow back pieces).bind fun place => t.follow place.reverse more := by
  induction pieces generalizing back with
  | nil => simp [follow]
  | cons piece rest ih =>
    rw [List.cons_append, follow, follow]
    split
    · rfl
    · split
      · exact ih back
      · split
        · exact ih back.tail
        · exact ih (String.ofList piece :: back)

theorem follow_empty (t : Tree) (place : List String) :
    t.follow place.reverse [[]] = if t.hasDir place then some place else none := by
  cases hdir : t.hasDir place <;> simp [follow, hdir]

theorem follow_name (t : Tree) (place : List String) {name : String} (hname : isName name = true) :
    t.follow place.reverse [name.toList] = if t.hasDir place then some (place ++ [name]) else none := by
  simp only [isName, Bool.and_eq_true, decide_eq_true_eq, ne_eq] at hname
  obtain ⟨⟨⟨hempty, hdot⟩, hdots⟩, -⟩ := hname
  cases hdir : t.hasDir place <;> simp [follow, hdir, hempty, hdot, hdots]

theorem isAbsolute_iff {p : Path} : p.isAbsolute = true ↔ ∃ rest, p.text.toList = '/' :: rest := by
  rw [Path.isAbsolute, beq_iff_eq, List.head?_eq_some_iff]

theorem isAbsolute_of_place? {t : Tree} {p : Path} {place : List String}
    (h : t.place? p = some place) : p.isAbsolute = true := by
  unfold place? at h
  split at h
  · rename_i rest htext
    exact isAbsolute_iff.2 ⟨rest, htext⟩
  · cases h

/-- An absolute path is followed from the piece after its first slash. -/
theorem place?_eq_follow (t : Tree) {p : Path} (h : p.isAbsolute = true) :
    t.place? p = t.follow [] (Text.splitAt '/' p.text.toList).tail := by
  obtain ⟨rest, htext⟩ := isAbsolute_iff.1 h
  have hpieces : Text.splitAt '/' ('/' :: rest) = [] :: Text.splitAt '/' rest :=
    splitAt_append_cons '/' [] rest
  simp only [place?, htext, hpieces, List.tail_cons]

/-! ## A name below a path -/

theorem slash_notMem_of_isName {name : String} (h : isName name = true) : '/' ∉ name.toList := by
  simp only [isName, Bool.and_eq_true, Bool.not_eq_true', List.contains_eq_mem,
    decide_eq_false_iff_not] at h
  exact h.2

theorem isAbsolute_of_isName {name : String} (h : isName name = true) :
    (Path.mk name).isAbsolute = false := by
  rw [Bool.eq_false_iff]
  intro habsolute
  obtain ⟨rest, htext⟩ := isAbsolute_iff.1 habsolute
  exact slash_notMem_of_isName h (htext ▸ List.mem_cons_self)

/-- Adding a name to a path adds one slash, unless the path ends with one. -/
theorem toList_child {p : Path} {name : String} (hp : p.isAbsolute = true)
    (hname : isName name = true) : ∃ front, (p.child name).text.toList = front ++ '/' :: name.toList ∧
      (p.text.toList = front ∨ p.text.toList = front ++ ['/']) := by
  have hrelative := isAbsolute_of_isName hname
  have hnonempty : p.text.isEmpty = false := by
    obtain ⟨rest, htext⟩ := isAbsolute_iff.1 hp
    rw [Bool.eq_false_iff]
    intro hempty
    rw [String.isEmpty_iff.1 hempty] at htext
    cases htext
  rw [Path.child, Path.join, hrelative, hnonempty]
  simp only [Bool.or_self, Bool.false_eq_true, ↓reduceIte, beq_iff_eq]
  split
  · rename_i hlast
    obtain ⟨front, hfront⟩ := List.getLast?_eq_some_iff.1 hlast
    exact ⟨front, by simp [hfront], Or.inr hfront⟩
  · exact ⟨p.text.toList, by simp, Or.inl rfl⟩

theorem isAbsolute_child (p : Path) {name : String} (hname : isName name = true) :
    (p.child name).isAbsolute = p.isAbsolute := by
  cases hp : p.isAbsolute with
  | true =>
    obtain ⟨rest, htext⟩ := isAbsolute_iff.1 hp
    obtain ⟨front, hchild, hfront⟩ := toList_child hp hname
    cases front with
    | nil => exact isAbsolute_iff.2 ⟨_, hchild⟩
    | cons c front =>
      obtain rfl : c = '/' := by
        rcases hfront with hfront | hfront <;> rw [hfront] at htext <;> exact (List.cons.inj htext).1
      exact isAbsolute_iff.2 ⟨_, hchild⟩
  | false =>
    have hrelative := isAbsolute_of_isName hname
    rw [Path.child, Path.join, hrelative]
    by_cases hempty : p.text.isEmpty = true
    · simp only [hempty, Bool.false_or, ↓reduceIte]
      exact hrelative
    · have hne : p.text.toList ≠ [] := by simpa [String.isEmpty_iff] using hempty
      obtain ⟨c, cs, hcs⟩ := List.exists_cons_of_ne_nil hne
      have hc : c ≠ '/' := by simpa [Path.isAbsolute, hcs] using hp
      -- the first character of the path is the first one of both ways to add the name
      simp only [hempty, Bool.or_self, Bool.false_eq_true, ↓reduceIte]
      split <;> simp [Path.isAbsolute, hcs, hc]

theorem place?_of_relative (t : Tree) {p : Path} (h : p.isAbsolute = false) : t.place? p = none := by
  cases hplace : t.place? p with
  | none => rfl
  | some place =>
    rw [isAbsolute_of_place? hplace] at h
    cases h

/-- **The place of a name below a path** is right below the place of the path, if there is a
    directory. -/
theorem place?_child_eq (t : Tree) (p : Path) {name : String} (hname : isName name = true) :
    t.place? (p.child name)
      = (t.place? p).bind fun place => if t.hasDir place then some (place ++ [name]) else none := by
  cases hp : p.isAbsolute with
  | false =>
    rw [place?_of_relative t hp, place?_of_relative t ((isAbsolute_child p hname).trans hp)]
    rfl
  | true =>
    obtain ⟨front, hchild, hfront⟩ := toList_child hp hname
    have hne : Text.splitAt '/' front ≠ [] := splitWhere_ne_nil _ front
    rw [place?_eq_follow t hp, place?_eq_follow t ((isAbsolute_child p hname).trans hp), hchild,
      splitAt_append_cons, splitAt_of_notMem (slash_notMem_of_isName hname),
      List.tail_append_of_ne_nil hne, follow_append]
    simp only [follow_name t _ hname]
    rcases hfront with hfront | hfront
    · rw [hfront]
    · -- the slash at the end of the path leads nowhere, but only from a directory
      have hslash : Text.splitAt '/' p.text.toList = Text.splitAt '/' front ++ [[]] := by
        rw [hfront, splitAt_append_cons]
        rfl
      rw [hslash, List.tail_append_of_ne_nil hne, follow_append, Option.bind_assoc]
      congr 1
      funext place
      rw [follow_empty]
      by_cases hdir : t.hasDir place = true <;> simp [hdir]

/-- **The path of a directory with a name added leads to the entry of that name.** -/
theorem lookup_child_eq (t : Tree) (p : Path) {name : String} (hname : isName name = true) :
    t.lookup (p.child name) = (t.lookup p).bind (get? · [name]) := by
  rw [lookup, lookup, place?_child_eq t p hname, Option.bind_assoc, Option.bind_assoc]
  congr 1
  funext place
  by_cases hdir : t.hasDir place = true
  · rw [if_pos hdir, Option.bind_some, get?_append]
  · rw [if_neg hdir, Option.bind_none]
    cases hget : t.get? place with
    | none => rfl
    | some node =>
      cases node with
      | file c => rfl
      | dir entries => exact absurd ((hasDir_iff t place).2 ⟨entries, hget⟩) hdir

theorem lookup_child {t : Tree} {p : Path} {entries : List (String × Tree)} {name : String}
    (h : t.lookup p = some (dir entries)) (hname : isName name = true) :
    t.lookup (p.child name) = Fields.get? entries name := by
  rw [lookup_child_eq t p hname, h, Option.bind_some, get?_dir_cons]
  cases Fields.get? entries name <;> simp

end Tree

end Uplift
