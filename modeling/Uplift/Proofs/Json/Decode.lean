import Uplift.Json.Record
import Uplift.Proofs.Except
import Uplift.Proofs.Json.RoundTrip

set_option autoImplicit false

/-! # Records are read back

A decoder reads a value back if it gets it from the pretty text of its JSON, in front of anything and with
blanks before it (`Reads`). Strings are read back, and what is put together of values that are read back is
read back as well: arrays (`reads_list`), and objects whose members fill the slots of a record one after
the other (`Fills.reads_record`). -/

namespace Uplift.Json

variable {α β σ : Type}

/-- A decoder reads a value back from the pretty text of its JSON. -/
structure Reads (d : Decoder α) (v : Json) (a : α) : Prop where
  /-- The text starts with ink, and does not close an array. -/
  opens : ∀ level, ∃ c tail, v.prettyChars level = c :: tail ∧ isGap c = false ∧ c ≠ ']'
  /-- What comes after the text is left. -/
  reads : ∀ level {cs rest : List Char}, skipGap cs = v.prettyChars level ++ rest →
    d cs = .ok (a, rest)

section

variable {d : Decoder α} {v : Json} {a : α}

theorem Reads.skipGap_pretty (h : Reads d v a) (level : Nat) (rest : List Char) :
    skipGap (v.prettyChars level ++ rest) = v.prettyChars level ++ rest := by
  obtain ⟨c, tail, htext, hgap, -⟩ := h.opens level
  rw [htext, List.cons_append, skipGap_cons_of_not_gap hgap]

theorem Reads.skipGap_newline (h : Reads d v a) (level : Nat) (rest : List Char) :
    skipGap (newline level ++ v.prettyChars level ++ rest) = v.prettyChars level ++ rest := by
  rw [List.append_assoc, Json.skipGap_newline, h.skipGap_pretty]

/-! ## Single values -/

theorem reads_text (s : String) : Reads text (.str s) s := by
  refine ⟨fun level => ⟨'"', _, rfl, rfl, by decide⟩, fun level {cs rest} hcs => ?_⟩
  have htext : skipGap cs = '"' :: (s.toList.flatMap escape ++ '"' :: rest) := by
    rw [hcs]
    simp [prettyChars, quote]
  simp only [text, htext, stringBody_flatMap_escape, need, ok_bind, String.ofList_toList]
  rfl

theorem Reads.through (h : Reads d v a) {f : α → Option β} {b : β} (hf : f a = some b) :
    Reads (through f d) v b := by
  refine ⟨h.opens, fun level {cs rest} hcs => ?_⟩
  simp only [Json.through, h.reads level hcs, ok_bind, hf, need]
  rfl

end

/-! ## Arrays -/

theorem skipGap_close {c : Char} (hgap : isGap c = false) (level : Nat) (rest : List Char) :
    skipGap (newline level ++ c :: rest) = c :: rest := by
  rw [skipGap_newline, skipGap_cons_of_not_gap hgap]

section

variable {item : Decoder α} {f : α → Json} {level outer : Nat} {rest : List Char}

theorem skipGap_last {a : α} (h : Reads item (f a) a) :
    skipGap (prettyItems level [f a] ++ (newline outer ++ ']' :: rest))
      = prettyChars level (f a) ++ (newline outer ++ ']' :: rest) :=
  h.skipGap_newline level _

theorem skipGap_more {a : α} (h : Reads item (f a) a) (b : α) (as : List α) :
    skipGap (prettyItems level ((a :: b :: as).map f) ++ (newline outer ++ ']' :: rest))
      = prettyChars level (f a) ++ ',' :: (prettyItems level ((b :: as).map f)
        ++ (newline outer ++ ']' :: rest)) := by
  rw [← h.skipGap_newline level]
  simp [prettyItems]

/-- The items of an array are read up to its closing bracket. -/
theorem listItems_pretty {as : List α} (hne : as ≠ []) (h : ∀ a ∈ as, Reads item (f a) a)
    {fuel : Nat} (hfuel : as.length ≤ fuel) {cs : List Char}
    (hcs : skipGap cs = skipGap (prettyItems level (as.map f) ++ (newline outer ++ ']' :: rest))) :
    listItems item fuel cs = .ok (as, rest) := by
  have hclose : isGap ']' = false := rfl
  have hcomma : isGap ',' = false := rfl
  induction as generalizing fuel cs with
  | nil => exact absurd rfl hne
  | cons a as ih =>
    obtain ⟨fuel, rfl⟩ : ∃ n, fuel = n + 1 :=
      Nat.exists_eq_add_one.2 (Nat.lt_of_lt_of_le (Nat.succ_pos _) hfuel)
    have hread := h a List.mem_cons_self
    cases as with
    | nil =>
      have hitem := hread.reads level (hcs.trans (skipGap_last hread))
      simp only [listItems, hitem, ok_bind, skipGap_close hclose]
      rfl
    | cons b as =>
      have hitem := hread.reads level (hcs.trans (skipGap_more hread b as))
      have hrest := ih (List.cons_ne_nil b as) (fun x hx => h x (List.mem_cons_of_mem a hx))
        (Nat.le_of_succ_le_succ hfuel) rfl
      simp only [listItems, hitem, ok_bind, skipGap_cons_of_not_gap hcomma, hrest]
      rfl

theorem skipGap_first {a : α} {as : List α} (h : Reads item (f a) a) : ∃ c tail,
    skipGap (prettyItems level ((a :: as).map f) ++ (newline outer ++ ']' :: rest)) = c :: tail ∧
      c ≠ ']' := by
  obtain ⟨c, tail, htext, -, hclose⟩ := h.opens level
  cases as with
  | nil => exact ⟨c, _, (skipGap_last h).trans (by rw [htext]; rfl), hclose⟩
  | cons b as => exact ⟨c, _, (skipGap_more h b as).trans (by rw [htext]; rfl), hclose⟩

/-- **An array is read back** if its items are. -/
theorem reads_list {as : List α} (h : ∀ a ∈ as, Reads item (f a) a) :
    Reads (list item) (.arr (as.map f)) as := by
  have hclose : isGap ']' = false := rfl
  refine ⟨fun level => ?_, fun level {cs rest} hcs => ?_⟩
  · cases as <;> exact ⟨'[', _, rfl, rfl, by decide⟩
  · cases as with
    | nil =>
      have hopen : skipGap cs = '[' :: ']' :: rest := hcs
      simp only [list, hopen, skipGap_cons_of_not_gap hclose]
    | cons a as =>
      have hopen : skipGap cs = '[' :: (prettyItems (level + 1) ((a :: as).map f)
          ++ (newline level ++ ']' :: rest)) := by
        rw [hcs]
        simp [prettyChars]
      obtain ⟨c, tail, hfirst, hc⟩ := skipGap_first (h a List.mem_cons_self)
      have hfuel : (a :: as).length ≤ (c :: tail).length := by
        have hlength := length_le_length_skipGap hclose
          (((a :: as).map f).map fun v => newline (level + 1) ++ prettyChars (level + 1) v) level rest
        rw [← prettyItems_eq, hfirst] at hlength
        simpa using hlength
      have hitems : listItems item (c :: tail).length (c :: tail) = .ok (a :: as, rest) :=
        listItems_pretty (List.cons_ne_nil a as) h hfuel (by rw [← hfirst, skipGap_skipGap])
      simp only [list, hopen, hfirst]
      split
      · rename_i hcons
        exact absurd (List.cons.inj hcons).1 hc
      · exact hitems

end

/-! ## Records -/

/-- Members fill the slots of a record, one after the other: each is found by its name, is not there yet,
    and is read into the record. -/
inductive Fills (slots : List (Slot σ)) : σ → List (String × Json) → σ → Prop
  | nil {s : σ} : Fills slots s [] s
  | cons {s s₁ s' : σ} {key : String} {v : Json} {fields : List (String × Json)} {slot : Slot σ}
      (hfind : slots.find? (·.name = key) = some slot) (hfree : slot.filled s = false)
      (hread : Reads (slot.read s) v s₁) (hrest : Fills slots s₁ fields s') :
      Fills slots s ((key, v) :: fields) s'

theorem Reads.slot {d : Decoder α} {v : Json} {a : α} (h : Reads d v a) (name : String)
    (get : σ → Option α) (set : σ → α → σ) (s : σ) :
    Reads ((Json.slot name get set d).read s) v (set s a) := by
  refine ⟨h.opens, fun level {cs rest} hcs => ?_⟩
  simp only [Json.slot, h.reads level hcs, ok_bind]
  rfl

section

variable {slots : List (Slot σ)} {level outer : Nat} {rest : List Char}

theorem recordMembers_member {s s₁ : σ} {key : String} {v : Json} {slot : Slot σ}
    (hfind : slots.find? (·.name = key) = some slot) (hfree : slot.filled s = false)
    (hread : Reads (slot.read s) v s₁) (fuel : Nat) {cs tail : List Char}
    (hcs : skipGap cs = quote key ++ ':' :: ' ' :: (prettyChars level v ++ tail)) :
    recordMembers slots (fuel + 1) s cs = match skipGap tail with
      | ',' :: cs => recordMembers slots fuel s₁ cs
      | '}' :: cs => .ok (s₁, cs)
      | _ => .error .malformed := by
  have hcolon : isGap ':' = false := rfl
  have hkey : text cs = .ok (key, ':' :: ' ' :: (prettyChars level v ++ tail)) :=
    (reads_text key).reads 0 hcs
  have hvalue : slot.read s (' ' :: (prettyChars level v ++ tail)) = .ok (s₁, tail) :=
    hread.reads level (hread.skipGap_pretty level tail)
  have hmember : readMember slots s key (' ' :: (prettyChars level v ++ tail)) = .ok (s₁, tail) := by
    simp only [readMember, hfind, hfree, Bool.false_eq_true, if_false, hvalue]
  simp only [recordMembers, hkey, ok_bind, skipGap_cons_of_not_gap hcolon, hmember]
  rfl

theorem skipGap_member (key : String) (v : Json) (tail : List Char) :
    skipGap (newline level ++ quote key ++ ':' :: ' ' :: prettyChars level v ++ tail)
      = quote key ++ ':' :: ' ' :: (prettyChars level v ++ tail) := by
  have htext : newline level ++ quote key ++ ':' :: ' ' :: prettyChars level v ++ tail
      = newline level ++ (quote key ++ ':' :: ' ' :: (prettyChars level v ++ tail)) := by
    simp
  rw [htext, skipGap_newline]
  rfl

theorem skipGap_moreMembers (key : String) (v : Json) (e : String × Json)
    (fields : List (String × Json)) :
    skipGap (prettyFields level ((key, v) :: e :: fields) ++ (newline outer ++ '}' :: rest))
      = quote key ++ ':' :: ' ' :: (prettyChars level v
        ++ ',' :: (prettyFields level (e :: fields) ++ (newline outer ++ '}' :: rest))) := by
  rw [← skipGap_member]
  simp [prettyFields]

/-- The members of an object are read up to its closing brace. -/
theorem recordMembers_pretty {s s' : σ} {fields : List (String × Json)} (h : Fills slots s fields s')
    (hne : fields ≠ []) {fuel : Nat} (hfuel : fields.length ≤ fuel) {cs : List Char}
    (hcs : skipGap cs = skipGap (prettyFields level fields ++ (newline outer ++ '}' :: rest))) :
    recordMembers slots fuel s cs = .ok (s', rest) := by
  have hclose : isGap '}' = false := rfl
  have hcomma : isGap ',' = false := rfl
  induction h generalizing fuel cs with
  | nil => exact absurd rfl hne
  | @cons s s₁ s' key v fields slot hfind hfree hread hrest ih =>
    obtain ⟨fuel, rfl⟩ : ∃ n, fuel = n + 1 :=
      Nat.exists_eq_add_one.2 (Nat.lt_of_lt_of_le (Nat.succ_pos _) hfuel)
    cases fields with
    | nil =>
      cases hrest
      have htext := hcs.trans (skipGap_member key v _)
      rw [recordMembers_member hfind hfree hread fuel htext, skipGap_close hclose]
      rfl
    | cons e fields =>
      have htext := hcs.trans (skipGap_moreMembers key v e fields)
      rw [recordMembers_member hfind hfree hread fuel htext, skipGap_cons_of_not_gap hcomma]
      exact ih (List.cons_ne_nil e fields) (Nat.le_of_succ_le_succ hfuel) rfl

/-- **A record is read back** from an object whose members fill its slots. -/
theorem Fills.reads_record {empty s : σ} {fields : List (String × Json)}
    (h : Fills slots empty fields s) (hne : fields ≠ []) {finish : σ → Option α} {a : α}
    (hfinish : finish s = some a) : Reads (record slots empty finish) (.obj fields) a := by
  have hclose : isGap '}' = false := rfl
  cases fields with
  | nil => exact absurd rfl hne
  | cons e fields =>
    refine Reads.through ⟨fun level => ⟨'{', _, rfl, rfl, by decide⟩, fun level {cs rest} hcs => ?_⟩
      hfinish
    have hopen : skipGap cs = '{' :: (prettyFields (level + 1) (e :: fields)
        ++ (newline level ++ '}' :: rest)) := by
      rw [hcs]
      simp [prettyChars]
    -- the first member starts with a quote
    have hfirst : ∃ tail, skipGap (prettyFields (level + 1) (e :: fields)
        ++ (newline level ++ '}' :: rest)) = '"' :: tail := by
      obtain ⟨key, v⟩ := e
      cases fields with
      | nil => exact ⟨_, skipGap_member key v _⟩
      | cons e' fields => exact ⟨_, skipGap_moreMembers key v e' fields⟩
    obtain ⟨tail, hfirst⟩ := hfirst
    have hfuel : (e :: fields).length ≤ ('"' :: tail).length := by
      have hlength := length_le_length_skipGap hclose ((e :: fields).map fun e =>
        newline (level + 1) ++ (quote e.1 ++ ':' :: ' ' :: prettyChars (level + 1) e.2)) level rest
      rw [← prettyFields_eq, hfirst] at hlength
      simpa using hlength
    have hmembers : recordMembers slots ('"' :: tail).length empty ('"' :: tail) = .ok (s, rest) :=
      recordMembers_pretty h hne hfuel (by rw [← hfirst, skipGap_skipGap])
    simp only [recordFields, hopen, hfirst]
    exact hmembers

end

/-- **A text that was written is read back as a whole.** -/
theorem Reads.decode_pretty {d : Decoder α} {v : Json} {a : α} (h : Reads d v a) :
    decode d v.fileText = .ok a := by
  have htext : v.fileText.toList = v.prettyChars 0 ++ ['\n'] := by
    simp [fileText, pretty]
  have hread : d (v.prettyChars 0 ++ ['\n']) = .ok (a, ['\n']) :=
    h.reads 0 (h.skipGap_pretty 0 ['\n'])
  rw [decode, htext, hread]
  rfl

end Uplift.Json
