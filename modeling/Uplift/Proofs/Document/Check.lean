import Uplift.Proofs.Document
import Uplift.Proofs.Except

set_option autoImplicit false

/-! # The check in front of a write

A path is walked twice when a value is set. The first walk looks for an array that cannot take its
segment, and sees nothing more once a key is missing or a scalar is in the way. The second walk writes,
and makes objects in these places. It needs every array on its way to take its segment: without the check
it would go on in an element that is not there, take a segment that is no index for the first element, or
add a value to the end that belongs elsewhere. `trust` is the second walk alone, which stops at the first
such slip. The check finds a misfit exactly where that walk slips (`setAt_checks_exactly`). -/

namespace Uplift.Document

/-! ## What the check finds -/

/-- An array cannot take a segment: it is no index, or one past the end. At the end of a path the place
    after the last element will do. -/
def Refuses (items : List Json) (s : String) (rest : List String) : Prop :=
  index? s = none ∨
    ∃ i, index? s = some i ∧ (rest ≠ [] ∧ items.length ≤ i ∨ rest = [] ∧ items.length < i)

@[simp] theorem misfit?_nil (d : Json) : misfit? d [] = none := by
  cases d <;> rfl

theorem misfit?_arr {items : List Json} {s : String} {rest : List String} :
    (misfit? (.arr items) (s :: rest)).isSome = true ↔
      Refuses items s rest ∨ ∃ v, child? (.arr items) s = some v ∧ (misfit? v rest).isSome = true := by
  cases hi : index? s with
  | none => simp [misfit?, Refuses, hi]
  | some i =>
    cases hold : items[i]? with
    | some v =>
      -- an element that is there fits
      have hlt : i < items.length := (List.getElem?_eq_some_iff.1 hold).1
      have hfits : ¬ Refuses items s rest := by
        simp only [Refuses, hi, reduceCtorEq, Option.some.injEq, exists_eq_left', false_or]
        omega
      simp [misfit?, child?, hi, hold, hfits]
    | none =>
      have hge : items.length ≤ i := List.getElem?_eq_none_iff.1 hold
      have hend : Refuses items s rest ↔ ¬ (rest = [] ∧ i = items.length) := by
        simp only [Refuses, hi, reduceCtorEq, Option.some.injEq, exists_eq_left', false_or]
        by_cases hrest : rest = []
        · simp only [hrest, ne_eq, not_true_eq_false, false_and, true_and, false_or]
          omega
        · simp [hrest, hge]
      rw [hend]
      by_cases h : rest = [] ∧ i = items.length
      · simp [misfit?, child?, hi, h]
      · simp [misfit?, child?, hi, hold, h]

theorem misfit?_cons {d : Json} {s : String} {rest : List String} :
    (misfit? d (s :: rest)).isSome = true ↔
      (∃ items, d = .arr items ∧ Refuses items s rest) ∨
        ∃ v, child? d s = some v ∧ (misfit? v rest).isSome = true := by
  cases d with
  | arr items => simpa using misfit?_arr
  | obj fields =>
    cases hold : Fields.get? fields s with
    | none => simp [misfit?, child?, hold]
    | some v => simp [misfit?, child?, hold]
  | _ => simp [misfit?, child?]

/-- The check finds a misfit exactly if some array in the document refuses its segment of the path. -/
theorem misfit?_isSome_iff (d : Json) (path : List String) :
    (misfit? d path).isSome = true ↔ ∃ front s rest items, path = front ++ s :: rest ∧
      getAt d front = some (.arr items) ∧ Refuses items s rest := by
  induction path generalizing d with
  | nil => simp
  | cons s rest ih =>
    rw [misfit?_cons]
    constructor
    · rintro (⟨items, rfl, hrefuses⟩ | ⟨v, hchild, hmisfit⟩)
      · exact ⟨[], s, rest, items, rfl, getAt_nil _, hrefuses⟩
      · obtain ⟨front, t, more, items, rfl, hget, hrefuses⟩ := (ih v).1 hmisfit
        refine ⟨s :: front, t, more, items, rfl, ?_, hrefuses⟩
        rw [getAt_cons, hchild, Option.bind_some, hget]
    · rintro ⟨front, t, more, items, hpath, hget, hrefuses⟩
      cases front with
      | nil =>
        obtain ⟨rfl, rfl⟩ := List.cons.inj hpath
        exact .inl ⟨items, by simpa using hget, hrefuses⟩
      | cons r front =>
        obtain ⟨rfl, rfl⟩ := List.cons.inj hpath
        rw [getAt_cons] at hget
        obtain ⟨v, hchild, hget⟩ := Option.bind_eq_some_iff.1 hget
        exact .inr ⟨v, hchild, (ih v).2 ⟨front, t, more, items, rfl, hget, hrefuses⟩⟩

/-! ## What the write needs -/

/-- What a write that does not look first can run into in an array. -/
inductive Slip where
  /-- It goes on in an element that is not there. -/
  | outOfBounds (index length : Nat)
  /-- It takes a segment that is no index for the first element, and goes on there. -/
  | takenForFirst (segment : String)
  /-- It takes a last segment that is no index for the place after the last element. -/
  | takenForEnd (segment : String)
  /-- It adds to the end what should have a place further on. -/
  | misplaced (index length : Nat)
  deriving DecidableEq, Repr

/-- Write a value at a path that is trusted to fit, up to the first slip. -/
def trust : Json → List String → Json → Except Slip Json
  | _, [], v => .ok v
  | .arr items, s :: rest, v =>
    match index? s with
    | none => .error (if rest.isEmpty then .takenForEnd s else .takenForFirst s)
    | some i =>
      match items[i]? with
      | some old => (trust old rest v).map fun new => .arr (items.set i new)
      | none =>
        if !rest.isEmpty then .error (.outOfBounds i items.length)
        else if i = items.length then .ok (.arr (items ++ [v]))
        else .error (.misplaced i items.length)
  | .obj fields, s :: rest, v =>
    (trust ((Fields.get? fields s).getD (.obj [])) rest v).map fun new => .obj (Fields.put fields s new)
  | _, s :: rest, v => (trust (.obj []) rest v).map fun new => .obj [(s, new)]

@[simp] theorem trust_nil (d v : Json) : trust d [] v = .ok v := by
  cases d <;> rfl

/-- The trusting walk writes what a checked one would, and slips where that stops. -/
theorem toOption_trust (d : Json) (path : List String) (v : Json) :
    (trust d path v).toOption = write? d path v := by
  induction path generalizing d with
  | nil => simp [Except.toOption]
  | cons s rest ih =>
    cases d with
    | arr items =>
      cases hi : index? s with
      | none => simp [trust, write?, hi, Except.toOption]
      | some i =>
        cases hold : items[i]? with
        | some old => simp [trust, write?, hi, hold, toOption_map, ih]
        | none =>
          by_cases hrest : rest = []
          · by_cases hend : i = items.length
            · simp [trust, write?, hi, hrest, hend, Except.toOption]
            · simp [trust, write?, hi, hold, hrest, hend, Except.toOption]
          · simp [trust, write?, hi, hold, hrest, Except.toOption]
    | obj fields => simp [trust, write?, toOption_map, ih]
    | _ => simp [trust, write?, toOption_map, ih]

-- on the way to `deep` there is no third element
example : trust (.obj [("list", .arr [.int 1, .int 2])]) ["list", "2", "deep"] .null
    = .error (.outOfBounds 2 2) := rfl

theorem trust_eq_ok_iff {d v d' : Json} {path : List String} :
    trust d path v = .ok d' ↔ setAt d path v = .ok d' := by
  rw [setAt_eq_ok_iff, ← toOption_trust]
  cases trust d path v <;> simp [Except.toOption]

/-! ## The two walks -/

theorem setAt_of_misfit {d : Json} {path : List String} {misfit : Misfit}
    (h : misfit? d path = some misfit) (v : Json) : setAt d path v = .error ⟨path, misfit⟩ := by
  rw [setAt, h]

theorem exists_setAt_of_fits {d : Json} {path : List String} (h : misfit? d path = none) (v : Json) :
    ∃ d', setAt d path v = .ok d' := by
  rw [setAt, h]
  exact ⟨_, rfl⟩

/-- **The check in front of a write is exactly what the write needs.** Setting a value fails if and only if
    some array on the path refuses its segment: the segment is no index, or an index past the end, where
    the place after the last element is past the end for all but the last segment. If it fails the
    document stays as it is. If the check finds nothing, the write that trusts it does not slip in any
    array, and its outcome is the document; if the check finds something, that write would slip. -/
theorem setAt_checks_exactly (d : Json) (path : List String) (v : Json) :
    ((∃ fault, (assignAt d path v).1 = .error fault) ↔
      ∃ front s rest items, path = front ++ s :: rest ∧ getAt d front = some (.arr items) ∧
        (index? s = none ∨ ∃ i, index? s = some i ∧
          (rest ≠ [] ∧ items.length ≤ i ∨ rest = [] ∧ items.length < i))) ∧
    (∀ fault, (assignAt d path v).1 = .error fault → (assignAt d path v).2 = d) ∧
    (misfit? d path = none → ∃ d', trust d path v = .ok d' ∧ assignAt d path v = (.ok (), d')) ∧
    (misfit? d path ≠ none → ∃ slip, trust d path v = .error slip) := by
  have hfound := misfit?_isSome_iff d path
  cases hmisfit : misfit? d path with
  | none =>
    rw [hmisfit] at hfound
    obtain ⟨d', hset⟩ := exists_setAt_of_fits hmisfit v
    have hassign : assignAt d path v = (.ok (), d') := by rw [assignAt, hset]
    have hfits : ¬ ∃ front s rest items, path = front ++ s :: rest ∧
        getAt d front = some (.arr items) ∧ Refuses items s rest := by
      simpa using hfound
    refine ⟨iff_of_false ?_ hfits, ?_, fun _ => ⟨d', trust_eq_ok_iff.2 hset, hassign⟩, by simp⟩
    · simp [hassign]
    · simp [hassign]
  | some misfit =>
    rw [hmisfit] at hfound
    have hset := setAt_of_misfit hmisfit v
    have hassign : assignAt d path v = (.error ⟨path, misfit⟩, d) := by rw [assignAt, hset]
    refine ⟨iff_of_true ⟨_, by rw [hassign]⟩ (hfound.1 rfl), fun _ _ => by rw [hassign], by simp, ?_⟩
    intro _
    cases htrust : trust d path v with
    | error slip => exact ⟨slip, rfl⟩
    | ok d' =>
      rw [trust_eq_ok_iff, hset] at htrust
      cases htrust

end Uplift.Document
