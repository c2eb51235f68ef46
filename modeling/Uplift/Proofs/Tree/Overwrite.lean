import Mathlib.Data.List.Nodup
import Uplift.Proofs.Tree

set_option autoImplicit false

/-! # Overwriting files

To overwrite a file is to give it another content; where no file is, nothing happens. Writing to a path
that a file is at comes to this (`write_of_content?`). Overwriting never makes a file or a directory, so
that paths keep their places, and files at different places are overwritten in any order with the same
result (`overwrite_comm`).

Hence a list of edits at different places has one outcome, however it is ordered (`overwriteAll_perm`):
each file in the list gets its new content, and no other entry changes. -/

namespace Uplift.Tree

/-! ## One file -/

/-- Give the file at a place another content. -/
def overwrite (t : Tree) (place : List String) (c : Content) : Tree :=
  if (t.content? place).isSome then t.put place (.file c) else t

theorem content?_eq_some_iff {t : Tree} {place : List String} {c : Content} :
    t.content? place = some c ↔ t.get? place = some (.file c) := by
  unfold content?
  rcases t.get? place with _ | (c' | entries) <;> simp

theorem content?_eq_join (t : Tree) (place : List String) :
    t.content? place = (t.entryAt place).join := by
  unfold content? entryAt
  rcases t.get? place with _ | (c | entries) <;> rfl

theorem hasDir_of_content? {t : Tree} {place : List String} {c : Content}
    (h : t.content? place = some c) : t.hasDir place = false := by
  rw [hasDir, content?_eq_some_iff.1 h]

theorem get?_put_of_get? {t old : Tree} {place : List String} (new : Tree)
    (h : t.get? place = some old) : (t.put place new).get? place = some new := by
  induction place generalizing t with
  | nil => simp [put]
  | cons s rest ih =>
    cases t with
    | file c => cases h
    | dir entries =>
      rw [get?_dir_cons] at h
      obtain ⟨child, hchild, hrest⟩ := Option.bind_eq_some_iff.1 h
      simp only [put, hchild, get?_dir_cons, Fields.get?_put_self, Option.bind_some]
      exact ih hrest

theorem put_comm {t : Tree} {p q : List String} {a b : Content} (hp : t.content? p = some a)
    (hq : t.content? q = some b) (hne : p ≠ q) (new last : Tree) :
    (t.put p new).put q last = (t.put q last).put p new := by
  rw [content?_eq_some_iff] at hp hq
  induction p generalizing t q with
  | nil =>
    -- a file at the root is the only one
    obtain rfl : t = .file a := by simpa using hp
    cases q with
    | nil => exact absurd rfl hne
    | cons s rest => cases hq
  | cons s p ih =>
    cases t with
    | file c => cases hp
    | dir entries =>
      cases q with
      | nil => cases hq
      | cons r q =>
        rw [get?_dir_cons] at hp hq
        obtain ⟨child, hchild, hp⟩ := Option.bind_eq_some_iff.1 hp
        obtain ⟨child', hchild', hq⟩ := Option.bind_eq_some_iff.1 hq
        by_cases hsr : s = r
        · -- both are below one entry
          subst hsr
          obtain rfl : child = child' := Option.some.inj (hchild.symm.trans hchild')
          have hpq : p ≠ q := fun heq => hne (by rw [heq])
          simp only [put, hchild, Fields.get?_put_self, Fields.put_put]
          rw [ih hp hq hpq]
        · have hrs : r ≠ s := Ne.symm hsr
          have hsome : (Fields.get? entries s).isSome = true := by rw [hchild]; rfl
          simp only [put, hchild, hchild', Fields.get?_put_of_ne _ _ hrs,
            Fields.get?_put_of_ne _ _ hsr]
          rw [Fields.put_comm _ _ hsr hsome]

theorem entryAt_overwrite_of_ne {t : Tree} {place other : List String} (c : Content)
    (hne : other ≠ place) : (t.overwrite place c).entryAt other = t.entryAt other := by
  unfold overwrite
  cases h : t.content? place with
  | none => rfl
  | some old => exact entryAt_put_of_ne c (hasDir_of_content? h) hne

theorem content?_overwrite_self (t : Tree) (place : List String) (c : Content) :
    (t.overwrite place c).content? place = (t.content? place).map fun _ => c := by
  unfold overwrite
  cases h : t.content? place with
  | none => simpa using h
  | some old => exact content?_eq_some_iff.2 (get?_put_of_get? _ (content?_eq_some_iff.1 h))

theorem content?_overwrite_of_ne {t : Tree} {place other : List String} (c : Content)
    (hne : other ≠ place) : (t.overwrite place c).content? other = t.content? other := by
  rw [content?_eq_join, content?_eq_join, entryAt_overwrite_of_ne c hne]

/-- Overwriting makes no files, and none disappear. -/
theorem isSome_content?_overwrite (t : Tree) (place other : List String) (c : Content) :
    ((t.overwrite place c).content? other).isSome = (t.content? other).isSome := by
  by_cases hne : other = place
  · rw [hne, content?_overwrite_self, Option.isSome_map]
  · rw [content?_overwrite_of_ne c hne]

theorem hasDir_overwrite (t : Tree) (place other : List String) (c : Content) :
    (t.overwrite place c).hasDir other = t.hasDir other := by
  by_cases hne : other = place
  · subst hne
    cases h : t.content? other with
    | none => simp [overwrite, h]
    | some old =>
      have hself := content?_overwrite_self t other c
      rw [h] at hself
      rw [hasDir_of_content? h, hasDir_of_content? hself]
  · rw [hasDir_eq_entryAt, hasDir_eq_entryAt, entryAt_overwrite_of_ne c hne]

/-- Different files are overwritten in any order. -/
theorem overwrite_comm (t : Tree) {p q : List String} (c d : Content) (hne : p ≠ q) :
    (t.overwrite p c).overwrite q d = (t.overwrite q d).overwrite p c := by
  have hq := isSome_content?_overwrite t p q c
  have hp := isSome_content?_overwrite t q p d
  rw [overwrite, hq, overwrite.eq_def (t.overwrite q d), hp]
  unfold overwrite
  cases hcp : t.content? p with
  | none => rfl
  | some a =>
    cases hcq : t.content? q with
    | none => rfl
    | some b => exact put_comm hcp hcq hne (.file c) (.file d)

/-! ## Paths -/

theorem place?_overwrite (t : Tree) (place : List String) (c : Content) (p : Path) :
    (t.overwrite place c).place? p = t.place? p :=
  place?_congr (fun other => hasDir_overwrite t place other c) p

theorem exists_of_readText {t : Tree} {p : Path} {s : String} (h : t.readText p = some s) :
    ∃ place, t.place? p = some place ∧ t.content? place = some (.text s) := by
  unfold readText lookup at h
  cases hp : t.place? p with
  | none => simp [hp] at h
  | some place =>
    refine ⟨place, rfl, content?_eq_some_iff.2 ?_⟩
    rw [hp, Option.bind_some] at h
    rcases hget : t.get? place with _ | (c | entries) <;> rw [hget] at h
    · cases h
    · cases c with
      | raw bytes => cases h
      | text s' => rw [Option.some.inj h]
    · cases h

theorem readText_of_place? {t : Tree} {p : Path} {place : List String} (hp : t.place? p = some place) :
    t.readText p = match t.content? place with
      | some (.text s) => some s
      | _ => none := by
  unfold readText lookup content?
  rw [hp, Option.bind_some]
  rcases t.get? place with _ | ((s | bytes) | entries) <;> rfl

/-- Writing to a path that a file is at overwrites the file. -/
theorem write_of_content? {t : Tree} {p : Path} {place : List String} {old : Content} (c : Content)
    (hp : t.place? p = some place) (h : t.content? place = some old) :
    t.write p c = some (t.overwrite place c) := by
  have hdir : t.hasDir place = false := hasDir_of_content? h
  simp [write, hp, hdir, overwrite, h]

/-- Two paths lead to one and the same file. -/
def SameFile (t : Tree) (p q : Path) : Prop := t.isFile p = true ∧ t.place? p = t.place? q

instance (t : Tree) (p q : Path) : Decidable (t.SameFile p q) :=
  inferInstanceAs (Decidable (_ ∧ _))

theorem isFile_iff {t : Tree} {p : Path} :
    t.isFile p = true ↔ ∃ place, t.place? p = some place ∧ (t.content? place).isSome = true := by
  unfold isFile lookup content?
  cases hp : t.place? p with
  | none => simp
  | some place =>
    simp only [Option.bind_some]
    rcases hget : t.get? place with _ | (c | entries) <;> simp [hget]

theorem SameFile.symm {t : Tree} {p q : Path} (h : t.SameFile p q) : t.SameFile q p := by
  obtain ⟨hfile, hplace⟩ := h
  rw [isFile_iff, hplace] at hfile
  exact ⟨isFile_iff.2 hfile, hplace.symm⟩

theorem sameFile_overwrite {t : Tree} {place : List String} {c : Content} {p q : Path} :
    (t.overwrite place c).SameFile p q ↔ t.SameFile p q := by
  simp only [SameFile, isFile_iff, place?_overwrite, isSome_content?_overwrite]

theorem readText_overwrite_of_ne {t : Tree} {q : Path} {place : List String} (c : Content)
    (hne : t.place? q ≠ some place) : (t.overwrite place c).readText q = t.readText q := by
  cases hq : t.place? q with
  | none =>
    have hq' := (place?_overwrite t place c q).trans hq
    simp [readText, lookup, hq, hq']
  | some other =>
    have hother : other ≠ place := fun heq => hne (hq.trans (congrArg some heq))
    rw [readText_of_place? hq, readText_of_place? ((place?_overwrite t place c q).trans hq),
      content?_overwrite_of_ne c hother]

/-- Overwriting a file does not show at a path that leads to another file, or to none. -/
theorem readText_overwrite {t : Tree} {p q : Path} {place : List String} (c : Content)
    (hp : t.place? p = some place) (hne : ¬ t.SameFile p q) :
    (t.overwrite place c).readText q = t.readText q := by
  by_cases hq : t.place? q = some place
  · -- both lead to one place, at which there is no file
    have hnone : t.content? place = none := by
      cases hc : t.content? place with
      | none => rfl
      | some old => exact absurd ⟨isFile_iff.2 ⟨place, hp, by rw [hc]; rfl⟩, hp.trans hq.symm⟩ hne
    rw [readText_of_place? hq, readText_of_place? ((place?_overwrite t place c q).trans hq),
      content?_overwrite_self, hnone]
    rfl
  · exact readText_overwrite_of_ne c hq

/-! ## Many files -/

/-- Overwrite files one after the other. -/
def overwriteAll (t : Tree) (edits : List (List String × Content)) : Tree :=
  edits.foldl (fun t e => t.overwrite e.1 e.2) t

@[simp] theorem overwriteAll_nil (t : Tree) : t.overwriteAll [] = t := rfl

@[simp] theorem overwriteAll_cons (t : Tree) (e : List String × Content)
    (edits : List (List String × Content)) :
    t.overwriteAll (e :: edits) = (t.overwrite e.1 e.2).overwriteAll edits := rfl

theorem overwriteAll_append (t : Tree) (edits more : List (List String × Content)) :
    t.overwriteAll (edits ++ more) = (t.overwriteAll edits).overwriteAll more := List.foldl_append

variable {t : Tree} {edits : List (List String × Content)}

theorem hasDir_overwriteAll (place : List String) :
    (t.overwriteAll edits).hasDir place = t.hasDir place := by
  induction edits generalizing t with
  | nil => rfl
  | cons e edits ih => rw [overwriteAll_cons, ih, hasDir_overwrite]

/-- Where nothing is overwritten, the entry stays. -/
theorem entryAt_overwriteAll_of_notMem {place : List String} (h : place ∉ edits.map Prod.fst) :
    (t.overwriteAll edits).entryAt place = t.entryAt place := by
  induction edits generalizing t with
  | nil => rfl
  | cons e edits ih =>
    obtain ⟨hne, hrest⟩ : place ≠ e.1 ∧ place ∉ edits.map Prod.fst := by simpa using h
    rw [overwriteAll_cons, ih hrest, entryAt_overwrite_of_ne e.2 hne]

/-- A file that is overwritten once has its new content. -/
theorem content?_overwriteAll_of_mem {place : List String} {c old : Content}
    (hnodup : (edits.map Prod.fst).Nodup) (hmem : (place, c) ∈ edits)
    (hfile : t.content? place = some old) : (t.overwriteAll edits).content? place = some c := by
  induction edits generalizing t old with
  | nil => cases hmem
  | cons e edits ih =>
    obtain ⟨hnew, hnodup⟩ : e.1 ∉ edits.map Prod.fst ∧ (edits.map Prod.fst).Nodup := by
      simpa using hnodup
    rw [overwriteAll_cons]
    rcases List.mem_cons.1 hmem with rfl | hmem
    · rw [content?_eq_join, entryAt_overwriteAll_of_notMem hnew, ← content?_eq_join,
        content?_overwrite_self, hfile]
      rfl
    · have hne : place ≠ e.1 := fun heq => hnew (heq ▸ List.mem_map.2 ⟨_, hmem, rfl⟩)
      exact ih hnodup hmem ((content?_overwrite_of_ne e.2 hne).trans hfile)

/-- **Edits of different files have one outcome in any order.** -/
theorem overwriteAll_perm {edits' : List (List String × Content)} (hperm : edits.Perm edits')
    (hnodup : (edits.map Prod.fst).Nodup) : t.overwriteAll edits = t.overwriteAll edits' := by
  refine hperm.foldl_eq' (fun x hx y hy current => ?_) t
  by_cases hplace : x.1 = y.1
  · rw [List.inj_on_of_nodup_map hnodup hx hy hplace]
  · exact overwrite_comm current x.2 y.2 hplace

end Uplift.Tree
