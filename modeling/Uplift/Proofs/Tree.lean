import Uplift.Proofs.Fields
import Uplift.Tree

set_option autoImplicit false

/-! # Laws of file trees

A tree is seen through its *entries*: at every place there is a file with its content, a directory,
or nothing. Two trees with the same entries hold the same files. Writing a file changes the entry at
its own place and no other (`entryAt_write_of_ne`), and afterwards the file is read back as it was
written (`readText_write`).

Places come from paths. Resolving a path looks at nothing but the directories on the way, and a
write keeps all directories, so a path has the same place before and after it. -/

namespace Uplift.Tree

/-! ## Entries -/

/-- The entry at a place: the content of a file, or none for a directory. -/
def entryAt (t : Tree) (place : List String) : Option (Option Content) :=
  match t.get? place with
  | some (.file c) => some (some c)
  | some (.dir _) => some none
  | none => none

@[simp] theorem get?_nil (t : Tree) : t.get? [] = some t := by
  cases t <;> rfl

@[simp] theorem get?_file_cons (c : Content) (s : String) (rest : List String) :
    (file c).get? (s :: rest) = none := rfl

theorem get?_dir_cons (entries : List (String × Tree)) (s : String) (rest : List String) :
    (dir entries).get? (s :: rest) = (Fields.get? entries s).bind (get? · rest) := rfl

theorem get?_append (t : Tree) (p q : List String) :
    t.get? (p ++ q) = (t.get? p).bind (get? · q) := by
  induction p generalizing t with
  | nil => simp
  | cons s rest ih =>
    cases t with
    | file c => simp
    | dir entries =>
      rw [List.cons_append, get?_dir_cons, get?_dir_cons]
      cases Fields.get? entries s with
      | none => rfl
      | some child => exact ih child

theorem hasDir_iff (t : Tree) (place : List String) :
    t.hasDir place = true ↔ ∃ entries, t.get? place = some (dir entries) := by
  unfold hasDir
  split
  · rename_i entries h
    simp [h]
  · rename_i h
    simp only [Bool.false_eq_true, false_iff, not_exists]
    exact h

theorem hasDir_eq_entryAt (t : Tree) (place : List String) :
    t.hasDir place = (t.entryAt place == some none) := by
  unfold hasDir entryAt
  rcases t.get? place with _ | (c | entries) <;> rfl

theorem hasDir_of_append {t : Tree} {p q : List String} (h : t.hasDir (p ++ q) = true) :
    t.hasDir p = true := by
  obtain ⟨entries, h⟩ := (t.hasDir_iff _).1 h
  rw [get?_append] at h
  cases hp : t.get? p with
  | none => rw [hp] at h; cases h
  | some node =>
    cases node with
    | dir inner => exact (t.hasDir_iff _).2 ⟨inner, hp⟩
    | file c =>
      -- below a file there is only the file itself
      rw [hp] at h
      cases q <;> simp at h

/-! ## Putting a file -/

theorem get?_put_self {t : Tree} {dirs : List String} (s : String) (new : Tree)
    (h : t.hasDir dirs = true) : (t.put (dirs ++ [s]) new).get? (dirs ++ [s]) = some new := by
  induction dirs generalizing t with
  | nil =>
    obtain ⟨entries, h⟩ := (t.hasDir_iff _).1 h
    obtain rfl : t = dir entries := by simpa using h
    rw [List.nil_append, put]
    split <;> simp [get?_dir_cons, put]
  | cons r rest ih =>
    obtain ⟨inner, h⟩ := (t.hasDir_iff _).1 h
    cases t with
    | file c => simp at h
    | dir entries =>
      rw [get?_dir_cons] at h
      cases hr : Fields.get? entries r with
      | none => rw [hr] at h; cases h
      | some child =>
        rw [hr] at h
        have hchild : child.hasDir rest = true := (child.hasDir_iff _).2 ⟨inner, h⟩
        simp only [List.cons_append, put, hr, get?_dir_cons, Fields.get?_put_self, Option.bind_some]
        exact ih hchild

theorem put_of_get? {t node : Tree} {place : List String} (h : t.get? place = some node) :
    t.put place node = t := by
  induction place generalizing t with
  | nil =>
    obtain rfl : t = node := by simpa using h
    simp [put]
  | cons s rest ih =>
    cases t with
    | file c => simp at h
    | dir entries =>
      rw [get?_dir_cons] at h
      obtain ⟨child, hchild, hrest⟩ := Option.bind_eq_some_iff.1 h
      simp only [put, hchild, ih hrest]
      rw [Fields.put_of_get? hchild]

/-- Putting a file where no directory is changes no other entry. -/
theorem entryAt_put_of_ne {t : Tree} {place other : List String} (c : Content)
    (hdir : t.hasDir place = false) (hne : other ≠ place) :
    (t.put place (file c)).entryAt other = t.entryAt other := by
  induction place generalizing t other with
  | nil =>
    cases t with
    | dir entries => simp [hasDir] at hdir
    | file c' =>
      cases other with
      | nil => exact absurd rfl hne
      | cons s rest => simp [put, entryAt]
  | cons s rest ih =>
    cases t with
    | file c' => rfl
    | dir entries =>
      cases other with
      | nil => rw [put]; split <;> (try split) <;> simp [entryAt]
      | cons s' rest' =>
        rw [put]
        cases hs : Fields.get? entries s with
        | none =>
          by_cases hrest : rest = []
          · simp only [hrest, ↓reduceIte]
            by_cases hss : s' = s
            · -- below the new file there is nothing, as there was nothing before
              subst hss
              obtain ⟨r, rs, rfl⟩ : ∃ r rs, rest' = r :: rs := by
                cases rest' with
                | nil => exact absurd (by rw [hrest]) hne
                | cons r rs => exact ⟨r, rs, rfl⟩
              simp [entryAt, get?_dir_cons, hs]
            · simp [entryAt, get?_dir_cons, Fields.get?_put_of_ne _ _ hss]
          · simp [hrest]
        | some child =>
          by_cases hss : s' = s
          · subst hss
            have hchild : child.hasDir rest = false := by
              simpa [hasDir, get?_dir_cons, hs] using hdir
            have hrest : rest' ≠ rest := fun h => hne (by rw [h])
            simpa [entryAt, get?_dir_cons, hs] using ih hchild hrest
          · simp [entryAt, get?_dir_cons, Fields.get?_put_of_ne _ _ hss]

/-! ## Paths and places -/

/-- Following a path depends on the directories alone. -/
theorem follow_congr {t t' : Tree} (h : ∀ place, t'.hasDir place = t.hasDir place)
    (back : List String) (pieces : List (List Char)) :
    t'.follow back pieces = t.follow back pieces := by
  induction pieces generalizing back with
  | nil => rfl
  | cons piece rest ih => simp only [follow, h, ih]

theorem place?_congr {t t' : Tree} (h : ∀ place, t'.hasDir place = t.hasDir place) (p : Path) :
    t'.place? p = t.place? p := by
  unfold place?
  split
  · exact follow_congr h _ _
  · rfl

/-- A place that a path can reach: the root, or below a directory. -/
def Reachable (t : Tree) (place : List String) : Prop :=
  place = [] ∨ ∃ dirs s, place = dirs ++ [s] ∧ t.hasDir dirs = true

theorem reachable_follow {t : Tree} {back : List String} {pieces : List (List Char)}
    {place : List String} (hback : t.Reachable back.reverse)
    (h : t.follow back pieces = some place) : t.Reachable place := by
  induction pieces generalizing back with
  | nil =>
    obtain rfl : back.reverse = place := by simpa [follow] using h
    exact hback
  | cons piece rest ih =>
    rw [follow] at h
    by_cases hdir : t.hasDir back.reverse = true
    · simp only [hdir, Bool.not_true, Bool.false_eq_true, ↓reduceIte] at h
      split at h
      · exact ih hback h
      · split at h
        · refine ih ?_ h
          -- one directory up: its own parent is a directory as well
          rcases back with _ | ⟨s, _ | ⟨r, back⟩⟩
          · exact Or.inl rfl
          · exact Or.inl rfl
          · refine Or.inr ⟨back.reverse, r, by simp, ?_⟩
            simp only [List.reverse_cons, List.append_assoc] at hdir
            exact hasDir_of_append hdir
        · exact ih (Or.inr ⟨back.reverse, String.ofList piece, by simp, hdir⟩) h
    · simp [hdir] at h

theorem reachable_place? {t : Tree} {p : Path} {place : List String}
    (h : t.place? p = some place) : t.Reachable place := by
  unfold place? at h
  split at h
  · exact reachable_follow (Or.inl rfl) h
  · cases h

/-! ## Writing a file -/

theorem write_eq_some {t t' : Tree} {p : Path} {c : Content} (h : t.write p c = some t') :
    ∃ place, t.place? p = some place ∧ t.hasDir place = false ∧ t' = t.put place (file c) := by
  unfold write at h
  split at h
  · cases h
  · rename_i place hplace
    split at h
    · cases h
    · rename_i hdir
      exact ⟨place, hplace, by simpa using hdir, (Option.some.inj h).symm⟩

/-- A write changes no entry but the one at its own place. -/
theorem entryAt_write_of_ne {t t' : Tree} {p : Path} {c : Content} (h : t.write p c = some t')
    {place : List String} (hne : t.place? p ≠ some place) : t'.entryAt place = t.entryAt place := by
  obtain ⟨own, hown, hdir, rfl⟩ := write_eq_some h
  exact entryAt_put_of_ne c hdir fun heq => hne (heq ▸ hown)

theorem get?_of_write {t t' : Tree} {p : Path} {c : Content} (h : t.write p c = some t')
    {place : List String} (hp : t.place? p = some place) : t'.get? place = some (file c) := by
  obtain ⟨own, hown, hdir, rfl⟩ := write_eq_some h
  obtain rfl : own = place := Option.some.inj (hown.symm.trans hp)
  rcases reachable_place? hown with rfl | ⟨dirs, s, rfl, hdirs⟩
  · cases t with
    | dir entries => simp [hasDir] at hdir
    | file c' => rfl
  · exact get?_put_self s (file c) hdirs

/-- A write keeps all directories and makes none. -/
theorem hasDir_write {t t' : Tree} {p : Path} {c : Content} (h : t.write p c = some t')
    (place : List String) : t'.hasDir place = t.hasDir place := by
  obtain ⟨own, hown, hdir, -⟩ := write_eq_some h
  by_cases hp : own = place
  · subst hp
    rw [hdir, hasDir, get?_of_write h hown]
  · have hne : t.place? p ≠ some place := fun h' => hp (Option.some.inj (hown.symm.trans h'))
    rw [hasDir_eq_entryAt, hasDir_eq_entryAt, entryAt_write_of_ne h hne]

theorem readText_write {t t' : Tree} {p : Path} {s : String} (h : t.write p (.text s) = some t') :
    t'.readText p = some s := by
  obtain ⟨place, hp, -, -⟩ := write_eq_some h
  have hp' : t'.place? p = some place := (place?_congr (hasDir_write h) p).trans hp
  unfold readText lookup
  rw [hp', Option.bind_some, get?_of_write h hp]

/-! ## Induction -/

/-- What holds of files, and of directories if it holds of all that is in them, holds of all trees. -/
theorem induction {P : Tree → Prop} (hfile : ∀ c, P (file c))
    (hdir : ∀ entries, (∀ e ∈ entries, P e.2) → P (dir entries)) : ∀ t, P t
  | .file c => hfile c
  | .dir entries => hdir entries fun e _ => induction hfile hdir e.2
  termination_by t => t
  decreasing_by
    rename_i he
    have hsize := List.sizeOf_lt_of_mem he
    obtain ⟨s, t⟩ := e
    simp only [dir.sizeOf_spec, Prod.mk.sizeOf_spec] at hsize ⊢
    omega

/-! ## Names in directories -/

mutual

/-- Whether every directory lists a name once, as on any disk. -/
def wellFormed : Tree → Bool
  | .file _ => true
  | .dir entries => decide (Fields.keys entries).Nodup && wellFormedIn entries

/-- Whether the trees of a list of entries are well-formed. -/
def wellFormedIn : List (String × Tree) → Bool
  | [] => true
  | (_, t) :: rest => wellFormed t && wellFormedIn rest

end

theorem wellFormedIn_iff (entries : List (String × Tree)) :
    wellFormedIn entries = true ↔ ∀ e ∈ entries, e.2.wellFormed = true := by
  induction entries with
  | nil => simp [wellFormedIn]
  | cons e rest ih =>
    obtain ⟨s, t⟩ := e
    simp [wellFormedIn, ih]

theorem wellFormed_dir_iff (entries : List (String × Tree)) :
    (dir entries).wellFormed = true ↔
      (Fields.keys entries).Nodup ∧ ∀ e ∈ entries, e.2.wellFormed = true := by
  simp [wellFormed, wellFormedIn_iff]

/-- What holds of a tree and passes from a directory to all that is in it holds at every place. -/
theorem holds_of_get? {P : Tree → Prop}
    (hpass : ∀ entries, P (dir entries) → ∀ e ∈ entries, P e.2) {t t' : Tree} {place : List String}
    (ht : P t) (h : t.get? place = some t') : P t' := by
  induction place generalizing t with
  | nil =>
    obtain rfl : t = t' := by simpa using h
    exact ht
  | cons s rest ih =>
    cases t with
    | file c => simp at h
    | dir entries =>
      rw [get?_dir_cons] at h
      obtain ⟨child, hchild, h⟩ := Option.bind_eq_some_iff.1 h
      exact ih (hpass entries ht _ (Fields.mem_of_get? hchild)) h

theorem wellFormed_of_get? {t t' : Tree} {place : List String} (ht : t.wellFormed = true)
    (h : t.get? place = some t') : t'.wellFormed = true :=
  holds_of_get? (P := fun t => t.wellFormed = true)
    (fun entries h => ((wellFormed_dir_iff entries).1 h).2) ht h

theorem wellFormed_of_lookup {t t' : Tree} {p : Path} (ht : t.wellFormed = true)
    (h : t.lookup p = some t') : t'.wellFormed = true := by
  obtain ⟨place, -, hplace⟩ := Option.bind_eq_some_iff.1 h
  exact wellFormed_of_get? ht hplace

end Uplift.Tree
