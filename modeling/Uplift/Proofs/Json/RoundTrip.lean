import Uplift.Proofs.Fields
import Uplift.Proofs.Json.Listed
import Uplift.Proofs.Json.WellFormed

set_option autoImplicit false

/-! # Reading back what was written

A value is *legible* at a depth if at most so many arrays and objects are nested in it, no object has a
key twice, and each number in it is read back from its own text. Legible values are read back from the
text of a document file (`read?_fileText`). Whatever was read from a text is well-formed
(`wellFormed_of_read?`), and legible as long as its numbers are read back (`legible_of_read?`). Numbers
are left to the hypothesis, because doubles are scaled by powers of ten when they are read and may be off
by a unit in the last place. -/

namespace Uplift.Json

/-- Whether a value is a number. -/
def isNumber : Json → Bool
  | .int _ => true
  | .float _ => true
  | _ => false

mutual

/-- The numbers in a value. -/
def numbers : Json → List Json
  | .int i => [.int i]
  | .float d => [.float d]
  | .arr items => numbersOfItems items
  | .obj fields => numbersOfFields fields
  | _ => []

/-- The numbers in some items. -/
def numbersOfItems : List Json → List Json
  | [] => []
  | v :: vs => numbers v ++ numbersOfItems vs

/-- The numbers in some members. -/
def numbersOfFields : List (String × Json) → List Json
  | [] => []
  | (_, v) :: fs => numbers v ++ numbersOfFields fs

end

/-- Values that are read back where at most so many arrays and objects may be opened. -/
inductive Legible : Nat → Json → Prop
  | null {depth : Nat} : Legible depth .null
  | bool {depth : Nat} {b : Bool} : Legible depth (.bool b)
  | str {depth : Nat} {s : String} : Legible depth (.str s)
  | number {depth : Nat} {n : Json} (hnumber : n.isNumber = true) (hread : read? n.compact = some n) :
      Legible depth n
  | arr {depth : Nat} {items : List Json} (hitems : ∀ v ∈ items, Legible depth v) :
      Legible (depth + 1) (.arr items)
  | obj {depth : Nat} {fields : List (String × Json)} (hkeys : (Fields.keys fields).Nodup)
      (hfields : ∀ e ∈ fields, Legible depth e.2) : Legible (depth + 1) (.obj fields)

/-! ## What readers take -/

theorem scalar_bracket (rest : List Char) : scalar ('[' :: rest) = none := rfl

theorem scalar_brace (rest : List Char) : scalar ('{' :: rest) = none := rfl

theorem value_skipGap (depth : Nat) (cs : List Char) : value depth (skipGap cs) = value depth cs := by
  cases depth <;> simp only [value, skipGap_skipGap]

theorem member_skipGap {α : Type} (item : Reader α) (cs : List Char) :
    member item (skipGap cs) = member item cs := by
  simp only [member, skipGap_skipGap]

theorem value_close (depth : Nat) (rest : List Char) : value depth (']' :: rest) = none := by
  cases depth <;> rfl

theorem member_close {α : Type} (item : Reader α) (rest : List Char) :
    member item ('}' :: rest) = none := rfl

theorem value_bracket (depth : Nat) (rest : List Char) : value (depth + 1) ('[' :: rest)
    = (array (value depth) rest).map fun r => (.arr r.1, r.2) := rfl

theorem value_brace (depth : Nat) (rest : List Char) : value (depth + 1) ('{' :: rest)
    = (object (value depth) rest).map fun r => (.obj (Fields.ofList r.1), r.2) := rfl

/-! ## Single values -/

theorem value_of_scalar {cs : List Char} {r : Json × List Char} (h : scalar (skipGap cs) = some r)
    (depth : Nat) : value depth cs = some r := by
  cases depth with
  | zero => exact h
  | succ depth =>
    simp only [value]
    split
    · rename_i hcs
      rw [hcs, scalar_bracket] at h
      cases h
    · rename_i hcs
      rw [hcs, scalar_brace] at h
      cases h
    · exact h

/-- A value that is no list is read from a text that starts with no blank. -/
theorem yields_of_scalar {cs : List Char} {v : Json}
    (h : ∀ rest, skipGap (cs ++ rest) = cs ++ rest ∧ scalar (cs ++ rest) = some (v, rest))
    (depth : Nat) : Yields (value depth) cs v := by
  intro rest _
  obtain ⟨hstart, hscalar⟩ := h rest
  exact ⟨rest, value_of_scalar (by rw [hstart, hscalar]) depth, rfl⟩

theorem yields_str (s : String) (depth : Nat) : Yields (value depth) (quote s) (.str s) := by
  refine yields_of_scalar (fun rest => ⟨rfl, ?_⟩) depth
  have htext : quote s ++ rest = '"' :: (s.toList.flatMap escape ++ '"' :: rest) := by
    simp [quote]
  rw [htext, scalar, stringBody_flatMap_escape]
  simp

theorem scalar_of_value {depth : Nat} {cs rest : List Char} {n : Json} (hnumber : n.isNumber = true)
    (h : value depth cs = some (n, rest)) : scalar (skipGap cs) = some (n, rest) := by
  cases depth with
  | zero => exact h
  | succ depth =>
    simp only [value] at h
    split at h
    · obtain ⟨r, -, heq⟩ := Option.map_eq_some_iff.1 h
      obtain ⟨rfl, -⟩ := Prod.mk.inj heq
      cases hnumber
    · obtain ⟨r, -, heq⟩ := Option.map_eq_some_iff.1 h
      obtain ⟨rfl, -⟩ := Prod.mk.inj heq
      cases hnumber
    · exact h

/-- A number is read in the same way if more text follows. -/
theorem scalar_append {cs rest rest' : List Char} {n : Json} (hnumber : n.isNumber = true)
    (h : scalar cs = some (n, rest)) (hends : Ends rest') :
    scalar (cs ++ rest') = some (n, rest ++ rest') := by
  cases cs with
  | nil => cases h
  | cons c cs =>
    unfold scalar at h
    split at h
    case h_5 hn ht hf hquote =>
      simp only [Option.bind_eq_bind, Option.bind_eq_some_iff, Prod.exists] at h
      obtain ⟨lexeme, tail, hlex, v, hvalue, heq⟩ := h
      obtain ⟨rfl, rfl⟩ := Prod.mk.inj (Option.some.inj heq)
      have hlex' := lexNumber_append hlex hends
      simp_all [scalar]
    -- words and strings are no numbers
    all_goals
      obtain ⟨_, -, heq⟩ := Option.map_eq_some_iff.1 h
      obtain ⟨rfl, -⟩ := Prod.mk.inj heq
      cases hnumber

theorem yields_number {n : Json} (hnumber : n.isNumber = true) (hread : read? n.compact = some n)
    (depth : Nat) : Yields (value depth) n.compactChars n := by
  intro rest hends
  simp only [read?, compact, String.toList_ofList, readChars] at hread
  split at hread
  · rename_i v tail hvalue
    split at hread
    · rename_i hblank
      obtain rfl := Option.some.inj hread
      -- the depth at which the number was read does not matter, nor what follows it
      have hscalar := scalar_of_value hnumber hvalue
      have hne : skipGap v.compactChars ≠ [] := by
        intro hnil
        rw [hnil] at hscalar
        cases hscalar
      refine ⟨tail ++ rest, value_of_scalar ?_ depth,
        skipGap_append_of_skipGap_eq_nil (List.isEmpty_iff.1 hblank) rest⟩
      rw [skipGap_append hne]
      exact scalar_append hnumber hscalar hends
    · cases hread
  · cases hread

/-! ## Lists -/

theorem prettyItems_eq (level : Nat) (vs : List Json) :
    prettyItems level vs = [','].intercalate (vs.map fun v => newline level ++ prettyChars level v) := by
  induction vs with
  | nil => rfl
  | cons v vs ih =>
    cases vs with
    | nil => simp [prettyItems]
    | cons w vs => simp [prettyItems, ih]

theorem prettyFields_eq (level : Nat) (fields : List (String × Json)) :
    prettyFields level fields = [','].intercalate (fields.map fun e =>
      newline level ++ (quote e.1 ++ ':' :: ' ' :: prettyChars level e.2)) := by
  induction fields with
  | nil => rfl
  | cons e fields ih =>
    cases fields with
    | nil => simp [prettyFields]
    | cons e' fields => simp [prettyFields, ih]

theorem Yields.newline {α : Type} {item : Reader α} {cs : List Char} {v : α} (h : Yields item cs v)
    (hskip : ∀ cs, item (skipGap cs) = item cs) (level : Nat) :
    Yields item (newline level ++ cs) v := by
  intro rest hends
  obtain ⟨rest', hitem, hrest'⟩ := h rest hends
  refine ⟨rest', ?_, hrest'⟩
  rw [List.append_assoc, ← hskip, skipGap_newline, hskip, hitem]

theorem Yields.member {item : Reader Json} {cs : List Char} {v : Json} (h : Yields item cs v)
    (hskip : ∀ cs, item (skipGap cs) = item cs) (k : String) :
    Yields (member item) (quote k ++ ':' :: ' ' :: cs) (k, v) := by
  intro rest hends
  obtain ⟨rest', hitem, hrest'⟩ := h rest hends
  refine ⟨rest', ?_, hrest'⟩
  have htext : quote k ++ ':' :: ' ' :: cs ++ rest
      = '"' :: (k.toList.flatMap escape ++ '"' :: (':' :: ' ' :: (cs ++ rest))) := by
    simp [quote]
  have hblank : item (' ' :: (cs ++ rest)) = some (v, rest') := by
    rw [← hskip, ← hitem, ← hskip (cs ++ rest)]
    rfl
  have hquote : isGap '"' = false := rfl
  have hcolon : isGap ':' = false := rfl
  simp [htext, Json.member, skipGap_cons_of_not_gap hquote, stringBody_flatMap_escape,
    skipGap_cons_of_not_gap hcolon, hblank]

/-- The items of an array are read back. -/
theorem array_prettyItems {depth level : Nat} {vs : List Json} (hne : vs ≠ [])
    (h : ∀ v ∈ vs, Yields (value depth) (prettyChars (level + 1) v) v) (rest : List Char) :
    array (value depth) (prettyItems (level + 1) vs ++ (newline level ++ ']' :: rest))
      = some (vs, rest) := by
  have hparts : ∀ p ∈ vs.map fun v => (newline (level + 1) ++ prettyChars (level + 1) v, v),
      Yields (value depth) p.1 p.2 := by
    intro p hp
    obtain ⟨v, hv, rfl⟩ := List.mem_map.1 hp
    exact (h v hv).newline (value_skipGap depth) (level + 1)
  have hread := listed_intercalate (by decide) rfl (value_skipGap depth) (value_close depth)
    (by simpa using hne) hparts level rest
  rw [array_eq_listed, prettyItems_eq]
  simpa [Function.comp_def] using hread

/-- The members of an object are read back. -/
theorem object_prettyFields {depth level : Nat} {fields : List (String × Json)} (hne : fields ≠ [])
    (h : ∀ e ∈ fields, Yields (value depth) (prettyChars (level + 1) e.2) e.2) (rest : List Char) :
    object (value depth) (prettyFields (level + 1) fields ++ (newline level ++ '}' :: rest))
      = some (fields, rest) := by
  have hparts : ∀ p ∈ fields.map fun e =>
      (newline (level + 1) ++ (quote e.1 ++ ':' :: ' ' :: prettyChars (level + 1) e.2), e),
      Yields (member (value depth)) p.1 p.2 := by
    intro p hp
    obtain ⟨e, he, rfl⟩ := List.mem_map.1 hp
    exact ((h e he).member (value_skipGap depth) e.1).newline (member_skipGap (value depth)) (level + 1)
  have hread := listed_intercalate (by decide) rfl (member_skipGap (value depth))
    (member_close (value depth)) (by simpa using hne) hparts level rest
  rw [object_eq_listed, prettyFields_eq]
  simpa [Function.comp_def] using hread

/-! ## All values -/

theorem prettyChars_of_isNumber {n : Json} (h : n.isNumber = true) (level : Nat) :
    n.prettyChars level = n.compactChars := by
  cases n with
  | int i => rfl
  | float d => rfl
  | null | bool _ | str _ | arr _ | obj _ => cases h

/-- **A legible value is read back**, whatever follows it. -/
theorem Legible.yields {depth : Nat} {v : Json} (h : Legible depth v) (level : Nat) :
    Yields (value depth) (v.prettyChars level) v := by
  induction h generalizing level with
  | null => exact yields_of_scalar (fun rest => ⟨rfl, rfl⟩) _
  | @bool _ b => cases b <;> exact yields_of_scalar (fun rest => ⟨rfl, rfl⟩) _
  | str =>
    rw [prettyChars]
    exact yields_str _ _
  | number hnumber hread =>
    rw [prettyChars_of_isNumber hnumber]
    exact yields_number hnumber hread _
  | @arr depth items hitems ih =>
    intro rest _
    refine ⟨rest, ?_, rfl⟩
    cases items with
    | nil => rfl
    | cons v vs =>
      -- the items are written one level further in
      have hread := array_prettyItems (List.cons_ne_nil v vs) (fun w hw => ih w hw (level + 1)) rest
      have htext : prettyChars level (.arr (v :: vs)) ++ rest
          = '[' :: (prettyItems (level + 1) (v :: vs) ++ (newline level ++ ']' :: rest)) := by
        simp [prettyChars]
      rw [htext, value_bracket, hread]
      rfl
  | @obj depth fields hkeys hfields ih =>
    intro rest _
    refine ⟨rest, ?_, rfl⟩
    cases fields with
    | nil => rfl
    | cons e fields =>
      have hread := object_prettyFields (List.cons_ne_nil e fields)
        (fun e' he' => ih e' he' (level + 1)) rest
      have htext : prettyChars level (.obj (e :: fields)) ++ rest
          = '{' :: (prettyFields (level + 1) (e :: fields) ++ (newline level ++ '}' :: rest)) := by
        simp [prettyChars]
      rw [htext, value_brace, hread, Option.map_some, Fields.ofList_of_nodup hkeys]

/-- **A legible document is read back from the text of its file.** -/
theorem read?_fileText {v : Json} (h : Legible maxDepth v) : read? v.fileText = some v := by
  have hbreak : Ends ['\n'] := ends_cons rfl []
  obtain ⟨rest, hvalue, hrest⟩ := h.yields 0 ['\n'] hbreak
  have htext : v.fileText.toList = v.prettyChars 0 ++ ['\n'] := by
    simp [fileText, pretty]
  have hblank : skipGap ['\n'] = [] := rfl
  rw [read?, readChars, htext, hvalue]
  simp [hrest, hblank]

/-! ## Whatever was read is legible -/

theorem numbersOfItems_eq (vs : List Json) : numbersOfItems vs = vs.flatMap numbers := by
  induction vs with
  | nil => rfl
  | cons v vs ih => rw [numbersOfItems, ih, List.flatMap_cons]

theorem numbersOfFields_eq (fields : List (String × Json)) :
    numbersOfFields fields = fields.flatMap fun e => numbers e.2 := by
  induction fields with
  | nil => rfl
  | cons e fields ih => rw [numbersOfFields, ih, List.flatMap_cons]

theorem isScalar_of_isNumber {n : Json} (h : n.isNumber = true) : n.isScalar = true := by
  cases n with
  | int i => rfl
  | float d => rfl
  | null | bool _ | str _ | arr _ | obj _ => cases h

theorem isNumber_of_floatOf {negative : Bool} {significand : Nat} {power : Int} {v : Json}
    (h : floatOf negative significand power = some v) : v.isNumber = true := by
  simp only [floatOf, Option.bind_eq_bind, Option.bind_eq_some_iff] at h
  obtain ⟨_, -, _, -, hv⟩ := h
  rw [← Option.some.inj hv]
  rfl

theorem isNumber_of_integerOf {negative : Bool} {n : Nat} {v : Json}
    (h : integerOf negative n = some v) : v.isNumber = true := by
  unfold integerOf at h
  split at h
  · rw [← Option.some.inj h]
    rfl
  · split at h
    · obtain ⟨_, -, hv⟩ := Option.map_eq_some_iff.1 h
      rw [← hv]
      rfl
    · rw [← Option.some.inj h]
      rfl

theorem isNumber_of_lexeme {n : Lexeme} {v : Json} (h : n.value = some v) : v.isNumber = true := by
  unfold Lexeme.value at h
  dsimp only at h
  split at h
  · split at h
    · exact isNumber_of_floatOf h
    · exact isNumber_of_integerOf h
  · split at h
    · exact isNumber_of_floatOf h
    · split at h
      · split at h
        · cases h
        · rw [← Option.some.inj h]
          rfl
      · exact isNumber_of_floatOf h

theorem isScalar_of_scalar {cs rest : List Char} {v : Json} (h : scalar cs = some (v, rest)) :
    v.isScalar = true := by
  unfold scalar at h
  split at h
  · obtain ⟨_, -, heq⟩ := Option.map_eq_some_iff.1 h
    obtain ⟨rfl, -⟩ := Prod.mk.inj heq
    rfl
  · obtain ⟨_, -, heq⟩ := Option.map_eq_some_iff.1 h
    obtain ⟨rfl, -⟩ := Prod.mk.inj heq
    rfl
  · obtain ⟨_, -, heq⟩ := Option.map_eq_some_iff.1 h
    obtain ⟨rfl, -⟩ := Prod.mk.inj heq
    rfl
  · obtain ⟨_, -, heq⟩ := Option.map_eq_some_iff.1 h
    obtain ⟨rfl, -⟩ := Prod.mk.inj heq
    rfl
  · simp only [Option.bind_eq_bind, Option.bind_eq_some_iff, Prod.exists] at h
    obtain ⟨_, _, -, _, hvalue, heq⟩ := h
    obtain ⟨rfl, -⟩ := Prod.mk.inj (Option.some.inj heq)
    exact isScalar_of_isNumber (isNumber_of_lexeme hvalue)

theorem legible_of_scalar {v : Json} (h : v.isScalar = true)
    (hnumbers : ∀ n ∈ v.numbers, read? n.compact = some n) (depth : Nat) : Legible depth v := by
  cases v with
  | null => exact .null
  | bool b => exact .bool
  | str s => exact .str
  | int i => exact .number rfl (hnumbers _ (List.mem_singleton_self _))
  | float d => exact .number rfl (hnumbers _ (List.mem_singleton_self _))
  | arr items => cases h
  | obj fields => cases h

theorem exists_of_member {α : Type} {item : Reader α} {cs rest : List Char} {m : String × α}
    (h : member item cs = some (m, rest)) : ∃ cs' rest', item cs' = some (m.2, rest') := by
  unfold member at h
  split at h
  · obtain ⟨⟨key, cs'⟩, -, h⟩ := Option.bind_eq_some_iff.1 h
    dsimp only at h
    split at h
    · obtain ⟨⟨v, rest'⟩, hitem, h⟩ := Option.bind_eq_some_iff.1 h
      obtain ⟨rfl, -⟩ := Prod.mk.inj (Option.some.inj h)
      exact ⟨_, _, hitem⟩
    · cases h
  · cases h

/-- What holds of scalars at any depth, and one level further up of arrays and of objects with different
    keys if it holds of all that is in them, holds of all values that are read. -/
theorem holds_of_value {P : Nat → Json → Prop} (hscalar : ∀ depth v, v.isScalar = true → P depth v)
    (harr : ∀ depth items, (∀ v ∈ items, P depth v) → P (depth + 1) (.arr items))
    (hobj : ∀ depth (fields : Fields Json), (Fields.keys fields).Nodup → (∀ e ∈ fields, P depth e.2) →
      P (depth + 1) (.obj fields))
    {depth : Nat} {cs rest : List Char} {v : Json} (h : value depth cs = some (v, rest)) : P depth v := by
  induction depth generalizing cs rest v with
  | zero => exact hscalar 0 v (isScalar_of_scalar h)
  | succ depth ih =>
    simp only [value] at h
    split at h
    · obtain ⟨⟨vs, rest'⟩, harray, heq⟩ := Option.map_eq_some_iff.1 h
      obtain ⟨rfl, -⟩ := Prod.mk.inj heq
      rw [array_eq_listed] at harray
      refine harr depth vs fun v hv => ?_
      obtain ⟨cs', rest', hitem⟩ := exists_of_mem_listed harray v hv
      exact ih hitem
    · obtain ⟨⟨ms, rest'⟩, hobject, heq⟩ := Option.map_eq_some_iff.1 h
      obtain ⟨rfl, -⟩ := Prod.mk.inj heq
      rw [object_eq_listed] at hobject
      -- repeated keys have been put together, and what is left are members that were read
      refine hobj depth _ (Fields.nodup_keys_ofList ms) fun e he => ?_
      obtain ⟨cs', rest', hmember⟩ := exists_of_mem_listed hobject e (Fields.mem_of_mem_ofList he)
      obtain ⟨cs', rest', hitem⟩ := exists_of_member hmember
      exact ih hitem
    · exact hscalar (depth + 1) v (isScalar_of_scalar h)

/-- A value that was read is legible if its numbers are read back. -/
theorem legible_of_value {depth : Nat} {cs rest : List Char} {v : Json}
    (h : value depth cs = some (v, rest)) :
    (∀ n ∈ v.numbers, read? n.compact = some n) → Legible depth v := by
  refine holds_of_value (P := fun depth v =>
    (∀ n ∈ v.numbers, read? n.compact = some n) → Legible depth v) ?_ ?_ ?_ h
  · exact fun depth v hscalar hnumbers => legible_of_scalar hscalar hnumbers depth
  · intro depth items ih hnumbers
    refine .arr fun v hv => ih v hv fun n hn => hnumbers n ?_
    rw [numbers, numbersOfItems_eq]
    exact List.mem_flatMap.2 ⟨v, hv, hn⟩
  · intro depth fields hkeys ih hnumbers
    refine .obj hkeys fun e he => ih e he fun n hn => hnumbers n ?_
    rw [numbers, numbersOfFields_eq]
    exact List.mem_flatMap.2 ⟨e, he, hn⟩

theorem exists_value_of_read? {s : String} {v : Json} (h : read? s = some v) :
    ∃ rest, value maxDepth s.toList = some (v, rest) := by
  unfold read? readChars at h
  split at h
  · rename_i rest hvalue
    split at h
    · exact ⟨rest, by rw [hvalue, Option.some.inj h]⟩
    · cases h
  · cases h

/-- **A document that was read is legible if its numbers are read back.** -/
theorem legible_of_read? {s : String} {v : Json} (h : read? s = some v)
    (hnumbers : ∀ n ∈ v.numbers, read? n.compact = some n) : Legible maxDepth v := by
  obtain ⟨rest, hvalue⟩ := exists_value_of_read? h
  exact legible_of_value hvalue hnumbers

/-- **A document that was read has no key twice in any of its objects.** -/
theorem wellFormed_of_read? {s : String} {v : Json} (h : read? s = some v) : v.wellFormed = true := by
  obtain ⟨rest, hvalue⟩ := exists_value_of_read? h
  refine holds_of_value (P := fun _ v => v.wellFormed = true) ?_ ?_ ?_ hvalue
  · exact fun _ v hscalar => wellFormed_of_isScalar hscalar
  · exact fun _ items ih => (wellFormed_arr_iff items).2 ih
  · exact fun _ fields hkeys ih => (wellFormed_obj_iff fields).2 ⟨hkeys, ih⟩

end Uplift.Json
