import Uplift.Proofs.Json.Token

set_option autoImplicit false

/-! # Reading lists of items

Arrays and objects are lists of items between brackets, with commas between the items. `listed` reads
such a list with any reader of items; it is what both are read with (`array_eq_listed`,
`object_eq_listed`). If every item can be read from its own text, whatever follows it, then the list can
be read from the texts of its items with commas between them (`listed_intercalate`). -/

namespace Uplift.Json

variable {α : Type} {item : Reader α} {close : Char}

/-- Items with commas between them, up to a closing character. -/
def separated (close : Char) (item : Reader α) : Nat → Reader (List α)
  | 0, _ => none
  | fuel + 1, cs => do
    let (v, cs) ← item cs
    match skipGap cs with
    | [] => none
    | c :: cs =>
      if c = ',' then
        let (vs, cs) ← separated close item fuel cs
        return (v :: vs, cs)
      else if c = close then return ([v], cs)
      else none

/-- A list of items after its opening bracket. -/
def listed (close : Char) (item : Reader α) : Reader (List α) := fun cs =>
  match skipGap cs with
  | [] => none
  | c :: rest =>
    if c = close then some ([], rest) else separated close item (rest.length + 1) (c :: rest)

/-! ## Arrays and objects -/

theorem items_eq_separated (item : Reader α) (fuel : Nat) (cs : List Char) :
    items item fuel cs = separated ']' item fuel cs := by
  induction fuel generalizing cs with
  | zero => rfl
  | succ fuel ih =>
    simp only [items, separated]
    cases item cs with
    | none => rfl
    | some r =>
      obtain ⟨v, rest⟩ := r
      simp only [Option.bind_eq_bind, Option.bind_some]
      cases skipGap rest with
      | nil => rfl
      | cons c rest =>
        by_cases hcomma : c = ','
        · subst hcomma
          simp [ih]
        · by_cases hclose : c = ']'
          · subst hclose
            rfl
          · simp [hcomma, hclose]

theorem members_eq_separated (item : Reader α) (fuel : Nat) (cs : List Char) :
    members item fuel cs = separated '}' (member item) fuel cs := by
  induction fuel generalizing cs with
  | zero => rfl
  | succ fuel ih =>
    simp only [members, separated]
    cases member item cs with
    | none => rfl
    | some r =>
      obtain ⟨m, rest⟩ := r
      simp only [Option.bind_eq_bind, Option.bind_some]
      cases skipGap rest with
      | nil => rfl
      | cons c rest =>
        by_cases hcomma : c = ','
        · subst hcomma
          simp [ih]
        · by_cases hclose : c = '}'
          · subst hclose
            rfl
          · simp [hcomma, hclose]

theorem array_eq_listed (item : Reader α) : array item = listed ']' item := by
  funext cs
  unfold array listed
  cases skipGap cs with
  | nil => rfl
  | cons c rest =>
    by_cases hclose : c = ']'
    · subst hclose
      rfl
    · simp [hclose, items_eq_separated]

theorem object_eq_listed (item : Reader α) : object item = listed '}' (member item) := by
  funext cs
  unfold object listed
  cases skipGap cs with
  | nil => rfl
  | cons c rest =>
    by_cases hclose : c = '}'
    · subst hclose
      rfl
    · simp [hclose, members_eq_separated]

/-! ## Reading what was listed -/

/-- The reader reads `v` from `cs`, whatever follows: up to blanks, that is what it leaves. -/
def Yields (item : Reader α) (cs : List Char) (v : α) : Prop :=
  ∀ rest, Ends rest → ∃ rest', item (cs ++ rest) = some (v, rest') ∧ skipGap rest' = skipGap rest

theorem separated_last {fuel : Nat} {cs cs' rest : List Char} {v : α} (hitem : item cs = some (v, cs'))
    (hrest : skipGap cs' = close :: rest) (hclose : close ≠ ',') :
    separated close item (fuel + 1) cs = some ([v], rest) := by
  simp [separated, hitem, hrest, hclose]

theorem separated_more {fuel : Nat} {cs cs' rest rest' : List Char} {v : α} {vs : List α}
    (hitem : item cs = some (v, cs')) (hrest : skipGap cs' = ',' :: rest)
    (hmore : separated close item fuel rest = some (vs, rest')) :
    separated close item (fuel + 1) cs = some (v :: vs, rest') := by
  simp [separated, hitem, hrest, hmore]

theorem separated_intercalate (hclose : close ≠ ',') (hgap : isGap close = false)
    {parts : List (List Char × α)} (hne : parts ≠ []) (hparts : ∀ p ∈ parts, Yields item p.1 p.2)
    {fuel : Nat} (hfuel : parts.length ≤ fuel) (level : Nat) (rest : List Char) :
    separated close item fuel
      ([','].intercalate (parts.map Prod.fst) ++ (newline level ++ close :: rest))
        = some (parts.map Prod.snd, rest) := by
  -- after an item the text goes on with a comma, or with the end of the list
  induction parts generalizing fuel with
  | nil => exact absurd rfl hne
  | cons p parts ih =>
    obtain ⟨fuel, rfl⟩ : ∃ n, fuel = n + 1 := ⟨fuel - 1, by simp at hfuel; omega⟩
    cases parts with
    | nil =>
      obtain ⟨cs', hitem, hcs'⟩ := hparts p List.mem_cons_self _ (ends_newline level (close :: rest))
      rw [skipGap_newline, skipGap_cons_of_not_gap hgap] at hcs'
      rw [List.map_singleton, List.intercalate_singleton]
      exact separated_last hitem hcs' hclose
    | cons q parts =>
      have hmore := ih (by simp) (fun r hr => hparts r (List.mem_cons_of_mem p hr))
        (Nat.le_of_succ_le_succ hfuel)
      obtain ⟨cs', hitem, hcs'⟩ := hparts p List.mem_cons_self
        (',' :: ([','].intercalate ((q :: parts).map Prod.fst) ++ (newline level ++ close :: rest)))
        (ends_cons rfl _)
      have htext : [','].intercalate ((p :: q :: parts).map Prod.fst)
          ++ (newline level ++ close :: rest)
            = p.1 ++ ',' :: ([','].intercalate ((q :: parts).map Prod.fst)
              ++ (newline level ++ close :: rest)) := by
        simp [List.intercalate_cons_cons]
      rw [htext]
      exact separated_more hitem hcs' hmore

/-! ## The bound of the loop -/

/-- How many characters are not blank. -/
def inked (cs : List Char) : Nat := cs.countP fun c => !isGap c

theorem inked_append (cs ds : List Char) : inked (cs ++ ds) = inked cs + inked ds := List.countP_append

theorem inked_cons_of_not_gap {c : Char} (h : isGap c = false) (cs : List Char) :
    inked (c :: cs) = inked cs + 1 := by
  simp [inked, h]

theorem inked_skipGap (cs : List Char) : inked (skipGap cs) = inked cs := by
  induction cs with
  | nil => rfl
  | cons c cs ih =>
    cases hc : isGap c with
    | true => simpa [inked, skipGap, hc] using ih
    | false => rw [skipGap_cons_of_not_gap hc]

theorem length_le_inked_intercalate (texts : List (List Char)) :
    texts.length ≤ inked ([','].intercalate texts) + 1 := by
  induction texts with
  | nil => simp
  | cons text texts ih =>
    cases texts with
    | nil => simp
    | cons next texts =>
      rw [List.intercalate_cons_cons, List.append_assoc, inked_append, List.singleton_append,
        inked_cons_of_not_gap rfl, List.length_cons]
      omega

theorem length_le_length_skipGap (hgap : isGap close = false) (texts : List (List Char)) (level : Nat)
    (rest : List Char) : texts.length
      ≤ (skipGap ([','].intercalate texts ++ (newline level ++ close :: rest))).length := by
  calc texts.length
      ≤ inked ([','].intercalate texts) + 1 := length_le_inked_intercalate texts
    _ ≤ inked ([','].intercalate texts ++ (newline level ++ close :: rest)) := by
      rw [inked_append, inked_append, inked_cons_of_not_gap hgap]
      omega
    _ = inked (skipGap ([','].intercalate texts ++ (newline level ++ close :: rest))) :=
      (inked_skipGap _).symm
    _ ≤ _ := List.countP_le_length

/-! ## Whole lists -/

theorem separated_skipGap (hskip : ∀ cs, item (skipGap cs) = item cs) (fuel : Nat) (cs : List Char) :
    separated close item fuel (skipGap cs) = separated close item fuel cs := by
  cases fuel with
  | zero => rfl
  | succ fuel => simp only [separated, hskip]

/-- **A list is read from the texts of its items**, with commas between them, if every item is read from
    its own text. No item may start with the closing character. -/
theorem listed_intercalate (hclose : close ≠ ',') (hgap : isGap close = false)
    (hskip : ∀ cs, item (skipGap cs) = item cs) (hstart : ∀ cs, item (close :: cs) = none)
    {parts : List (List Char × α)} (hne : parts ≠ []) (hparts : ∀ p ∈ parts, Yields item p.1 p.2)
    (level : Nat) (rest : List Char) :
    listed close item ([','].intercalate (parts.map Prod.fst) ++ (newline level ++ close :: rest))
      = some (parts.map Prod.snd, rest) := by
  have hlength := length_le_length_skipGap hgap (parts.map Prod.fst) level rest
  rw [List.length_map] at hlength
  have hread := separated_intercalate hclose hgap hne hparts hlength level rest
  rw [← separated_skipGap hskip] at hread
  unfold listed
  cases hcs : skipGap ([','].intercalate (parts.map Prod.fst) ++ (newline level ++ close :: rest)) with
  | nil =>
    rw [hcs] at hread
    cases hread
  | cons c tail =>
    rw [hcs, List.length_cons] at hread
    by_cases hc : c = close
    · -- then no first item could have been read
      subst hc
      simp [separated, hstart] at hread
    · simpa [hc] using hread

theorem exists_of_mem_separated {fuel : Nat} {cs rest : List Char} {vs : List α}
    (h : separated close item fuel cs = some (vs, rest)) :
    ∀ v ∈ vs, ∃ cs' rest', item cs' = some (v, rest') := by
  induction fuel generalizing cs vs with
  | zero => cases h
  | succ fuel ih =>
    simp only [separated, Option.bind_eq_bind, Option.bind_eq_some_iff, Prod.exists] at h
    obtain ⟨v, cs', hitem, h⟩ := h
    split at h
    · cases h
    · split at h
      · obtain ⟨⟨vs', rest'⟩, hmore, h⟩ := Option.bind_eq_some_iff.1 h
        obtain ⟨rfl, rfl⟩ := Prod.mk.inj (Option.some.inj h)
        exact List.forall_mem_cons.2 ⟨⟨cs, cs', hitem⟩, ih hmore⟩
      · split at h
        · obtain ⟨rfl, -⟩ := Prod.mk.inj (Option.some.inj h)
          exact List.forall_mem_singleton.2 ⟨cs, cs', hitem⟩
        · cases h

theorem exists_of_mem_listed {cs rest : List Char} {vs : List α}
    (h : listed close item cs = some (vs, rest)) :
    ∀ v ∈ vs, ∃ cs' rest', item cs' = some (v, rest') := by
  unfold listed at h
  split at h
  · cases h
  · split at h
    · obtain ⟨rfl, -⟩ := Prod.mk.inj (Option.some.inj h)
      simp
    · exact exists_of_mem_separated h

end Uplift.Json
