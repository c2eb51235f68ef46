import Uplift.Document
import Uplift.Proofs.Fields
import Uplift.Proofs.Json.WellFormed

set_option autoImplicit false

/-! # Laws of editing by path

A path is followed one segment at a time, from a value to its *child* at the segment (`getAt_cons`). A
write changes one child on each step of its way and no other (`stepped_of_write?`). From this one step
come both laws of a write that succeeds, by induction on the path: what was written is read back, and
what is read on another path stays the same (`setAt_lens`).

Paths part ways at a first segment. In an object two segments part as soon as they are different texts.
In an array they have to be different indices as well: `1`, `01` and `+1` are one place there. -/

namespace Uplift.Document

/-! ## One step -/

/-- The value one segment below a value. -/
def child? : Json → String → Option Json
  | .obj fields, s => Fields.get? fields s
  | .arr items, s => (index? s).bind (items[·]?)
  | _, _ => none

/-- Two segments lead to different places below a value. -/
def Apart (d : Json) (s other : String) : Prop :=
  s ≠ other ∧ ∀ items, d = .arr items → ∀ i, index? s = some i → index? other ≠ some i

@[simp] theorem getAt_nil (d : Json) : getAt d [] = some d := by
  cases d <;> rfl

theorem getAt_cons (d : Json) (s : String) (rest : List String) :
    getAt d (s :: rest) = (child? d s).bind (getAt · rest) := by
  cases d <;> rfl

theorem getAt_append (d : Json) (front rest : List String) :
    getAt d (front ++ rest) = (getAt d front).bind (getAt · rest) := by
  induction front generalizing d with
  | nil => simp
  | cons s front ih =>
    rw [List.cons_append, getAt_cons, getAt_cons, Option.bind_assoc]
    exact congrArg _ (funext ih)

theorem wellFormed_of_child? {d v : Json} {s : String} (hd : d.wellFormed = true)
    (h : child? d s = some v) : v.wellFormed = true := by
  cases d with
  | obj fields => exact ((Json.wellFormed_obj_iff fields).1 hd).2 _ (Fields.mem_of_get? h)
  | arr items =>
    obtain ⟨i, -, hi⟩ := Option.bind_eq_some_iff.1 h
    exact (Json.wellFormed_arr_iff items).1 hd v (List.mem_of_getElem? hi)
  | _ => cases h

theorem wellFormed_of_getAt {d v : Json} {path : List String} (hd : d.wellFormed = true)
    (h : getAt d path = some v) : v.wellFormed = true := by
  induction path generalizing d with
  | nil =>
    obtain rfl : d = v := by simpa using h
    exact hd
  | cons s rest ih =>
    rw [getAt_cons] at h
    obtain ⟨c, hchild, h⟩ := Option.bind_eq_some_iff.1 h
    exact ih (wellFormed_of_child? hd hchild) h

@[simp] theorem write?_nil (d v : Json) : write? d [] v = some v := by
  cases d <;> rfl

/-- What one step of a write leaves behind: the child at its own segment is written further, starting
    from an object without members if there is none; the children apart from it stay. -/
structure Stepped (d : Json) (s : String) (rest : List String) (v d' : Json) : Prop where
  own : ∃ new, write? ((child? d s).getD (.obj [])) rest v = some new ∧ child? d' s = some new
  others : ∀ other, Apart d s other → child? d' other = child? d other

theorem stepped_obj {fields : List (String × Json)} {s : String} {rest : List String} {v d' : Json}
    (h : write? (.obj fields) (s :: rest) v = some d') : Stepped (.obj fields) s rest v d' := by
  obtain ⟨new, hnew, hd'⟩ := Option.bind_eq_some_iff.1 h
  obtain rfl := Option.some.inj hd'
  refine ⟨⟨new, hnew, Fields.get?_put_self fields s new⟩, fun other hapart => ?_⟩
  exact Fields.get?_put_of_ne fields new (Ne.symm hapart.1)

theorem stepped_arr {items : List Json} {s : String} {rest : List String} {v d' : Json}
    (h : write? (.arr items) (s :: rest) v = some d') : Stepped (.arr items) s rest v d' := by
  obtain ⟨i, hi, hwrite⟩ := Option.bind_eq_some_iff.1 h
  have hother : ∀ {other : String} {j : Nat}, Apart (.arr items) s other → index? other = some j →
      i ≠ j := by
    rintro other j hapart hj rfl
    exact hapart.2 items rfl i hi hj
  split at hwrite
  · -- an element that is there is replaced
    rename_i old hold
    obtain ⟨new, hnew, hd'⟩ := Option.bind_eq_some_iff.1 hwrite
    obtain rfl := Option.some.inj hd'
    have hlt : i < items.length := (List.getElem?_eq_some_iff.1 hold).1
    refine ⟨⟨new, by simpa [child?, hi, hold] using hnew, by simp [child?, hi, hlt]⟩, ?_⟩
    intro other hapart
    cases hj : index? other with
    | none => simp [child?, hj]
    | some j => simp [child?, hj, List.getElem?_set_ne (hother hapart hj)]
  · -- an element is added at the end, which is where the path ends
    rename_i hnone
    split at hwrite
    · rename_i hend
      obtain ⟨rfl, rfl⟩ := hend
      obtain rfl := Option.some.inj hwrite
      refine ⟨⟨v, by simp, by simp [child?, hi]⟩, ?_⟩
      intro other hapart
      cases hj : index? other with
      | none => simp [child?, hj]
      | some j =>
        have hne : items.length ≠ j := hother hapart hj
        rcases Nat.lt_or_gt_of_ne hne with hlt | hgt
        · simp [child?, hj, List.getElem?_append, Nat.not_lt.2 (Nat.le_of_lt hlt),
            Nat.sub_ne_zero_of_lt hlt]
        · simp [child?, hj, List.getElem?_append, hgt]
    · cases hwrite

/-- **A write changes one child on each step of its way.** -/
theorem stepped_of_write? {d : Json} {s : String} {rest : List String} {v d' : Json}
    (h : write? d (s :: rest) v = some d') : Stepped d s rest v d' := by
  -- a scalar has no children, and becomes an object with one
  have hscalar : (∀ t, child? d t = none) →
      ((write? (.obj []) rest v).bind fun new => some (.obj [(s, new)])) = some d' →
      Stepped d s rest v d' := by
    intro hnone h
    obtain ⟨new, hnew, hd'⟩ := Option.bind_eq_some_iff.1 h
    obtain rfl := Option.some.inj hd'
    refine ⟨⟨new, by rw [hnone]; exact hnew, by simp [child?, Fields.get?]⟩, fun other hapart => ?_⟩
    rw [hnone, child?, Fields.get?, if_neg hapart.1, Fields.get?]
  cases d with
  | obj fields => exact stepped_obj h
  | arr items => exact stepped_arr h
  | _ => exact hscalar (fun _ => rfl) h

/-! ## Whole paths -/

theorem getAt_write?_append {d v d' : Json} {path : List String} (h : write? d path v = some d')
    (below : List String) : getAt d' (path ++ below) = getAt v below := by
  induction path generalizing d d' with
  | nil =>
    obtain rfl : v = d' := by simpa using h
    rfl
  | cons s rest ih =>
    obtain ⟨⟨new, hnew, hchild⟩, -⟩ := stepped_of_write? h
    rw [List.cons_append, getAt_cons, hchild, Option.bind_some]
    exact ih hnew

theorem getAt_write?_apart {d v d' : Json} {front : List String} {s other : String}
    {rest more : List String} (h : write? d (front ++ s :: rest) v = some d')
    (hapart : ∀ e, getAt d front = some e → Apart e s other) (hne : s ≠ other) :
    getAt d' (front ++ other :: more) = getAt d (front ++ other :: more) := by
  induction front generalizing d d' with
  | nil =>
    have hchild := (stepped_of_write? h).others other (hapart d (getAt_nil d))
    rw [List.nil_append, getAt_cons, getAt_cons, hchild]
  | cons r front ih =>
    obtain ⟨⟨new, hnew, hchild⟩, -⟩ := stepped_of_write? h
    rw [List.cons_append, getAt_cons, getAt_cons, hchild, Option.bind_some]
    cases hold : child? d r with
    | some old =>
      rw [hold, Option.getD_some] at hnew
      refine ih hnew fun e he => hapart e ?_
      rw [getAt_cons, hold]
      exact he
    | none =>
      -- on the way there was nothing: objects are made, with nothing next to the written path
      rw [hold, Option.getD_none] at hnew
      rw [ih hnew, Option.bind_none]
      · cases front <;> rfl
      · intro e he
        cases front with
        | nil =>
          obtain rfl : .obj [] = e := by simpa using he
          exact ⟨hne, fun items heq => by cases heq⟩
        | cons t front => cases he

/-! ## When a path can be written -/

theorem misfit?_empty (path : List String) : misfit? (.obj []) path = none := by
  cases path <;> rfl

/-- The check in front of a write finds a misfit exactly where the write would leave an array. -/
theorem write?_isSome (d : Json) (path : List String) (v : Json) :
    (write? d path v).isSome = (misfit? d path).isNone := by
  induction path generalizing d with
  | nil => cases d <;> rfl
  | cons s rest ih =>
    have hwrap : ∀ (o : Option Json) (f : Json → Json),
        (o.bind fun x => some (f x)).isSome = o.isSome := by
      intro o f
      cases o <;> rfl
    have hempty : (write? (.obj []) rest v).isSome = true := by rw [ih, misfit?_empty]; rfl
    cases d with
    | obj fields =>
      cases hold : Fields.get? fields s with
      | none => simp [write?, misfit?, hold, hwrap, hempty]
      | some old => simp [write?, misfit?, hold, hwrap, ih]
    | arr items =>
      cases hi : index? s with
      | none => simp [write?, misfit?, hi]
      | some i =>
        cases hold : items[i]? with
        | some old => simp [write?, misfit?, hi, hold, hwrap, ih]
        | none =>
          by_cases hend : rest = [] ∧ i = items.length
          · simp [write?, misfit?, hi, hend]
          · simp [write?, misfit?, hi, hold, hend]
    | _ => simp [write?, misfit?, hwrap, hempty]

theorem setAt_eq_ok_iff {d v d' : Json} {path : List String} :
    setAt d path v = .ok d' ↔ write? d path v = some d' := by
  have hsome := write?_isSome d path v
  unfold setAt
  cases hmisfit : misfit? d path with
  | some misfit =>
    rw [hmisfit] at hsome
    cases hwrite : write? d path v with
    | none => simp
    | some new => simp [hwrite] at hsome
  | none =>
    rw [hmisfit] at hsome
    cases hwrite : write? d path v with
    | none => simp [hwrite] at hsome
    | some new => simp

/-! ## The laws -/

/-- **A value that was set is found, and nothing else has changed.** Let a document be `d` before and
    `d'` after a value was set at a path. Below the path, `d'` reads as the value. On a path that parts
    from it, `d'` reads as `d`; where they part in an array, they have to part at different indices. -/
theorem setAt_lens {d v d' : Json} {path : List String} (h : setAt d path v = .ok d') :
    (∀ below, getAt d' (path ++ below) = getAt v below) ∧
    (∀ front s rest other more, path = front ++ s :: rest → s ≠ other →
      (∀ items, getAt d front = some (.arr items) → ∀ i, index? s = some i → index? other ≠ some i) →
      getAt d' (front ++ other :: more) = getAt d (front ++ other :: more)) := by
  have hwrite := setAt_eq_ok_iff.1 h
  refine ⟨getAt_write?_append hwrite, ?_⟩
  rintro front s rest other more rfl hne hindex
  refine getAt_write?_apart hwrite (fun e he => ⟨hne, ?_⟩) hne
  rintro items rfl
  exact hindex items he

/-- A scalar in an array gives way to an object. The element before it stays, by whatever spelling of
    its index it is read. -/
theorem setAt_lens_array :
    let d : Json := .obj [("a", .arr [.str "x", .int 1]), ("1", .null)]
    let d' : Json := .obj [("a", .arr [.str "x", .obj [("b", .obj [("c", .bool true)])]]), ("1", .null)]
    setAt d ["a", "01", "b"] (.obj [("c", .bool true)]) = .ok d' ∧
      getAt d' ["a", "01", "b", "c"] = some (.bool true) ∧
      getAt d' ["a", "+0"] = getAt d ["a", "+0"] ∧ getAt d' ["1"] = getAt d ["1"] := by
  intro d d'
  have hset : setAt d ["a", "01", "b"] (.obj [("c", .bool true)]) = .ok d' := rfl
  obtain ⟨hbelow, hapart⟩ := setAt_lens hset
  refine ⟨hset, hbelow ["c"], hapart ["a"] "01" ["b"] "+0" [] rfl (by decide) ?_,
    hapart [] "a" ["01", "b"] "1" [] rfl (by decide) ?_⟩
  · intro items _ i hi hi'
    have hone : index? "01" = some 1 := by decide
    have hzero : index? "+0" = some 0 := by decide
    rw [hone] at hi
    rw [hzero] at hi'
    cases hi
    cases hi'
  · intro items hitems
    simp [d] at hitems

end Uplift.Document
