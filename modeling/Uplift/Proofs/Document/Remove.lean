import Uplift.Proofs.Document

set_option autoImplicit false

/-! # Laws of removing

To remove a value is to take it out of its parent and to write the parent back in its place
(`removeAt_append`). So there are two things to know of a removal (`remove_cases`): what the parent is
without the child, and that writing it back changes nothing apart from its own path, by the laws of
writes. `remove_agrees` puts them together. -/

namespace Uplift.Document

/-! ## One step -/

theorem write?_of_child? {d old : Json} {s : String} (h : child? d s = some old) (rest : List String)
    (v : Json) : write? d (s :: rest) v = (write? old rest v).bind (write? d [s] ·) := by
  cases d with
  | obj fields =>
    have hold : Fields.get? fields s = some old := h
    simp [write?, hold]
  | arr items =>
    obtain ⟨i, hi, hold⟩ := Option.bind_eq_some_iff.1 h
    simp [write?, hi, hold]
  | _ => cases h

theorem exists_write?_of_child? {d old : Json} {s : String} (h : child? d s = some old) (new : Json) :
    ∃ d', write? d [s] new = some d' := by
  cases d with
  | obj fields => exact ⟨.obj (Fields.put fields s new), by simp [write?]⟩
  | arr items =>
    obtain ⟨i, hi, hold⟩ := Option.bind_eq_some_iff.1 h
    exact ⟨.arr (items.set i new), by simp [write?, hi, hold]⟩
  | _ => cases h

theorem removeAt_of_child? {d old : Json} {s : String} {rest : List String}
    (h : child? d s = some old) (hrest : rest ≠ []) :
    removeAt d (s :: rest) =
      (removeAt old rest).bind fun r => (write? d [s] r.2).map fun d' => (r.1, d') := by
  obtain ⟨t, more, rfl⟩ := List.exists_cons_of_ne_nil hrest
  cases d with
  | obj fields =>
    have hold : Fields.get? fields s = some old := h
    simp [removeAt, write?, hold]
  | arr items =>
    obtain ⟨i, hi, hold⟩ := Option.bind_eq_some_iff.1 h
    simp [removeAt, write?, hi, hold]
  | _ => cases h

theorem removeAt_of_child?_eq_none {d : Json} {s : String} (h : child? d s = none)
    (rest : List String) : removeAt d (s :: rest) = none := by
  cases d with
  | obj fields =>
    have hold : Fields.get? fields s = none := h
    simp [removeAt, hold]
  | arr items =>
    cases hi : index? s with
    | none => simp [removeAt, hi]
    | some i =>
      have hold : items[i]? = none := by simpa [child?, hi] using h
      simp [removeAt, hi, hold]
  | _ => rfl

theorem removeAt_obj_last (fields : Fields Json) (s : String) :
    removeAt (.obj fields) [s] = (fields.get? s).map fun v => (v, .obj (fields.erase s)) := by
  cases h : fields.get? s <;> simp [removeAt, h]

theorem removeAt_arr_last (items : List Json) {s : String} {i : Nat} (hi : index? s = some i) :
    removeAt (.arr items) [s] = items[i]?.map fun v => (v, .arr (items.eraseIdx i)) := by
  cases h : items[i]? <;> simp [removeAt, hi, h]

theorem removeAt_last_fst (d : Json) (s : String) : (removeAt d [s]).map (·.1) = child? d s := by
  cases d with
  | obj fields =>
    rw [removeAt_obj_last, Option.map_map]
    exact Option.map_id' (x := Fields.get? fields s)
  | arr items =>
    cases hi : index? s with
    | none => simp [removeAt, child?, hi]
    | some i =>
      rw [removeAt_arr_last items hi]
      cases hold : items[i]? <;> simp [child?, hi, hold]
  | _ => rfl

/-! ## Whole paths -/

theorem exists_write?_of_getAt {d old : Json} {path : List String} (h : getAt d path = some old)
    (new : Json) : ∃ d', write? d path new = some d' := by
  induction path generalizing d with
  | nil => exact ⟨new, write?_nil d new⟩
  | cons s rest ih =>
    rw [getAt_cons] at h
    obtain ⟨c, hchild, h⟩ := Option.bind_eq_some_iff.1 h
    obtain ⟨c', hc'⟩ := ih h
    obtain ⟨d', hd'⟩ := exists_write?_of_child? hchild c'
    exact ⟨d', by rw [write?_of_child? hchild, hc', Option.bind_some, hd']⟩

/-- **A removal takes a child out of its parent and writes the parent back.** -/
theorem removeAt_append (d : Json) (front : List String) (last : String) :
    removeAt d (front ++ [last]) = (getAt d front).bind fun parent =>
      (removeAt parent [last]).bind fun r => (write? d front r.2).map fun d' => (r.1, d') := by
  induction front generalizing d with
  | nil => cases h : removeAt d [last] <;> simp [h]
  | cons s front ih =>
    rw [List.cons_append, getAt_cons]
    cases hchild : child? d s with
    | none => simp [removeAt_of_child?_eq_none hchild]
    | some old =>
      rw [removeAt_of_child? hchild (by simp), ih old, Option.bind_some]
      cases getAt old front with
      | none => rfl
      | some parent =>
        simp only [Option.bind_some]
        cases removeAt parent [last] with
        | none => rfl
        | some r =>
          rw [Option.bind_some, Option.bind_some, write?_of_child? hchild front]
          cases write? old front r.2 <;> rfl

/-- What a removal can do: there is nothing at the path and the document stays, or the value there is
    taken out of its parent, and the parent is written back. -/
theorem remove_cases (d : Json) {path : String} {front : List String} {last : String}
    (hpath : segments path = front ++ [last]) :
    get d path = none ∧ remove d path = (none, d) ∨
    ∃ v parent new d', get d path = some v ∧ getAt d front = some parent ∧
      removeAt parent [last] = some (v, new) ∧ write? d front new = some d' ∧
      remove d path = (some v, d') := by
  unfold get remove
  rw [hpath, removeAt_append, getAt_append]
  cases hparent : getAt d front with
  | none => exact .inl ⟨rfl, rfl⟩
  | some parent =>
    have hfst := removeAt_last_fst parent last
    have hchild : getAt parent [last] = child? parent last := by simp [getAt_cons]
    simp only [Option.bind_some]
    rw [hchild, ← hfst]
    cases hremove : removeAt parent [last] with
    | none => exact .inl ⟨rfl, rfl⟩
    | some r =>
      obtain ⟨v, new⟩ := r
      obtain ⟨d', hd'⟩ := exists_write?_of_getAt hparent new
      refine .inr ⟨v, parent, new, d', rfl, rfl, hremove, hd', ?_⟩
      simp [hd']

/-! ## The parent -/

variable {d : Json} {path : String} {front : List String} {last : String}

/-- Of a parent that is an object, all other members stay in their order. -/
theorem getAt_remove_obj {fields : Fields Json} (hd : d.wellFormed = true)
    (hpath : segments path = front ++ [last]) (hparent : getAt d front = some (.obj fields)) :
    getAt (remove d path).2 front = some (.obj (fields.filter (·.1 ≠ last))) := by
  obtain ⟨hkeys, -⟩ := (Json.wellFormed_obj_iff fields).1 (wellFormed_of_getAt hd hparent)
  rcases remove_cases d hpath with ⟨hnone, hremove⟩ | ⟨v, parent, new, d', -, hown, htaken, hwrite, hremove⟩
  · have hget : Fields.get? fields last = none := by
      rw [get, hpath, getAt_append, hparent, Option.bind_some, getAt_cons] at hnone
      simpa [child?] using hnone
    have hall : fields.filter (·.1 ≠ last) = fields := by
      refine List.filter_eq_self.2 fun e he => decide_eq_true ?_
      rintro rfl
      exact Fields.get?_eq_none_iff.1 hget (List.mem_map.2 ⟨e, he, rfl⟩)
    rw [hremove, hall]
    exact hparent
  · obtain rfl : parent = .obj fields := Option.some.inj (hown.symm.trans hparent)
    rw [removeAt_obj_last] at htaken
    obtain ⟨w, -, hnew⟩ := Option.map_eq_some_iff.1 htaken
    obtain ⟨-, rfl⟩ := Prod.mk.inj hnew
    rw [hremove, ← Fields.erase_eq_filter hkeys]
    simpa using getAt_write?_append hwrite []

/-- Of a parent that is an array, all other items close up. -/
theorem getAt_remove_arr {items : List Json} {i : Nat} (hpath : segments path = front ++ [last])
    (hparent : getAt d front = some (.arr items)) (hi : index? last = some i) (hlt : i < items.length) :
    getAt (remove d path).2 front = some (.arr (items.eraseIdx i)) := by
  have hitem : items[i]? = some items[i] := List.getElem?_eq_getElem hlt
  rcases remove_cases d hpath with ⟨hnone, -⟩ | ⟨v, parent, new, d', -, hown, htaken, hwrite, hremove⟩
  · rw [get, hpath, getAt_append, hparent, Option.bind_some, getAt_cons] at hnone
    simp [child?, hi, hitem] at hnone
  · obtain rfl : parent = .arr items := Option.some.inj (hown.symm.trans hparent)
    rw [removeAt_arr_last items hi, hitem] at htaken
    obtain ⟨-, rfl⟩ := Prod.mk.inj (Option.some.inj htaken)
    rw [hremove]
    simpa using getAt_write?_append hwrite []

/-! ## The laws -/

/-- **A removal returns what was there and touches nothing else.** Let a value be removed at a dotted path
    with the segments `front ++ [last]`. The answer is what the path has led to, and if that is nothing the
    document stays. If the parent is an object, afterwards the path leads to nothing and the parent has
    all its other members in their order. If it is an array that has the item, the items after it move
    up by one. Any path that parts from the removed one before its last segment reads as before;
    where they part in an array, they have to part at different indices. -/
theorem remove_agrees (hd : d.wellFormed = true) (hpath : segments path = front ++ [last]) :
    (remove d path).1 = get d path ∧
    (get d path = none → (remove d path).2 = d) ∧
    (∀ fields, getAt d front = some (.obj fields) →
      get (remove d path).2 path = none ∧
      getAt (remove d path).2 front = some (.obj (fields.filter (·.1 ≠ last)))) ∧
    (∀ items i, getAt d front = some (.arr items) → index? last = some i → i < items.length →
      ∃ left, getAt (remove d path).2 front = some (.arr left) ∧
        (∀ j, j < i → left[j]? = items[j]?) ∧ ∀ j, i ≤ j → left[j]? = items[j + 1]?) ∧
    (∀ above s below other more, front = above ++ s :: below → s ≠ other →
      (∀ items, getAt d above = some (.arr items) → ∀ i, index? s = some i → index? other ≠ some i) →
      getAt (remove d path).2 (above ++ other :: more) = getAt d (above ++ other :: more)) := by
  have hcases := remove_cases d hpath
  refine ⟨?_, ?_, ?_, ?_, ?_⟩
  · rcases hcases with ⟨hnone, hremove⟩ | ⟨v, _, _, _, hsome, -, -, -, hremove⟩
    · rw [hremove, hnone]
    · rw [hremove, hsome]
  · intro hnone
    rcases hcases with ⟨-, hremove⟩ | ⟨v, _, _, _, hsome, -⟩
    · rw [hremove]
    · rw [hnone] at hsome
      cases hsome
  · intro fields hparent
    have hleft := getAt_remove_obj hd hpath hparent
    have habsent : Fields.get? (fields.filter (·.1 ≠ last)) last = none := by
      rw [Fields.get?_eq_none_iff]
      simp [Fields.keys]
    refine ⟨?_, hleft⟩
    rw [get, hpath, getAt_append, hleft, Option.bind_some, getAt_cons, child?, habsent]
    rfl
  · intro items i hparent hi hlt
    refine ⟨items.eraseIdx i, getAt_remove_arr hpath hparent hi hlt, fun j hj => ?_, fun j hj => ?_⟩
    · exact List.getElem?_eraseIdx_of_lt hj
    · exact List.getElem?_eraseIdx_of_ge hj
  · rintro above s below other more rfl hne hindex
    rcases hcases with ⟨-, hremove⟩ | ⟨v, _, new, d', -, -, -, hwrite, hremove⟩
    · rw [hremove]
    · rw [hremove]
      refine getAt_write?_apart hwrite (fun e he => ⟨hne, ?_⟩) hne
      rintro items rfl
      exact hindex items he

/-- A member and an item of one document. The dots of a path may stand together, and an index may have a
    sign. -/
theorem remove_agrees_twice :
    let d : Json := .obj [("a", .obj [("b", .int 1), ("c", .null), ("x", .int 3)]),
      ("l", .arr [.int 1, .obj [("y", .int 2)]])]
    (d.wellFormed = true ∧ segments ".a..c" = ["a"] ++ ["c"] ∧ segments "l.+0" = ["l"] ++ ["+0"]) ∧
      (remove d ".a..c").1 = some .null ∧
      getAt (remove d ".a..c").2 ["a"] = some (.obj [("b", .int 1), ("x", .int 3)]) ∧
      getAt (remove d ".a..c").2 ["l", "1", "y"] = some (.int 2) ∧
      ∃ left, getAt (remove d "l.+0").2 ["l"] = some (.arr left) ∧
        left[0]? = some (.obj [("y", .int 2)]) := by
  intro d
  have hd : d.wellFormed = true := by decide
  have hmember : segments ".a..c" = ["a"] ++ ["c"] := by decide
  have hitem : segments "l.+0" = ["l"] ++ ["+0"] := by decide
  obtain ⟨hfound, -, hobj, -, happart⟩ := remove_agrees hd hmember
  obtain ⟨-, -, -, harr, -⟩ := remove_agrees hd hitem
  have hread : get d ".a..c" = some .null := by rw [get, hmember]; rfl
  obtain ⟨left, hleft, -, hafter⟩ := harr _ 0 rfl (by decide) (by decide)
  refine ⟨⟨hd, hmember, hitem⟩, hfound.trans hread, (hobj _ rfl).2, ?_, left, hleft, hafter 0 (by decide)⟩
  refine happart [] "a" [] "l" ["1", "y"] rfl (by decide) fun items hitems => ?_
  simp [d] at hitems

end Uplift.Document
