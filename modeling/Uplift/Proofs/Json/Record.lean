import Uplift.Proofs.Json.Rest

set_option autoImplicit false

/-! # Where the reading of a record is cut short

A record is read member by member, so its reading is cut short at the first value that overflows, and
what stands behind that value is not looked at. `MembersReach` and `ItemsReach` say which values the
reading comes to: all before have been read, or stepped over. A record overflows exactly if its reading
comes to a value whose slot overflows there (`record_eq_overflow_iff`).

Of most records only one member can overflow at all. `OverflowsAt` says which one it is and how it is
read, and `record_overflow_iff_comesTo` has the criterion for such records. -/

namespace Uplift.Json

variable {α β σ : Type} {slots : List (Slot σ)} {slot : Slot σ} {s s' : σ} {cs rest value : List Char}
  {key : String}

/-! ## Values that a reading comes to -/

/-- Reading the members of an object into the record `s` comes to the value of a slot, with the record
    that it is to be read into. -/
inductive MembersReach (slots : List (Slot σ)) : σ → List Char → Slot σ → σ → List Char → Prop where
  | here {s : σ} {cs rest value : List Char} {key : String} {slot : Slot σ}
      (hkey : text cs = .ok (key, rest)) (hcolon : skipGap rest = ':' :: value)
      (hslot : slots.find? (·.name = key) = some slot) (hfree : slot.filled s = false) :
      MembersReach slots s cs slot s value
  | next {s s₁ s' : σ} {cs rest value rest₁ cs₁ value' : List Char} {key : String} {slot : Slot σ}
      (hkey : text cs = .ok (key, rest)) (hcolon : skipGap rest = ':' :: value)
      (hread : readMember slots s key value = .ok (s₁, rest₁)) (hcomma : skipGap rest₁ = ',' :: cs₁)
      (h : MembersReach slots s₁ cs₁ slot s' value') : MembersReach slots s cs slot s' value'

/-- Reading the values of an array, one for each slot, comes to the value of a slot. -/
inductive ItemsReach : List (Slot σ) → σ → List Char → Slot σ → σ → List Char → Prop where
  | here {slots : List (Slot σ)} {slot : Slot σ} {s : σ} {cs : List Char} :
      ItemsReach (slot :: slots) s cs slot s cs
  | next {slots : List (Slot σ)} {first slot : Slot σ} {s s₁ s' : σ}
      {cs rest₁ cs₁ value : List Char} (hread : first.read s cs = .ok (s₁, rest₁))
      (hcomma : skipGap rest₁ = ',' :: cs₁) (h : ItemsReach slots s₁ cs₁ slot s' value) :
      ItemsReach (first :: slots) s cs slot s' value

/-- Reading a record comes to the value of a slot. -/
inductive RecordReaches (slots : List (Slot σ)) (empty : σ) (cs : List Char) :
    Slot σ → σ → List Char → Prop where
  | object {rest value : List Char} {slot : Slot σ} {s : σ} (hopen : skipGap cs = '{' :: rest)
      (h : MembersReach slots empty (skipGap rest) slot s value) :
      RecordReaches slots empty cs slot s value
  | array {rest value : List Char} {slot : Slot σ} {s : σ} (hopen : skipGap cs = '[' :: rest)
      (hitem : (skipGap rest).head? ≠ some ']')
      (h : ItemsReach slots empty (skipGap rest) slot s value) :
      RecordReaches slots empty cs slot s value

theorem MembersReach.mem (h : MembersReach slots s cs slot s' value) : slot ∈ slots := by
  induction h with
  | here _ _ hslot _ => exact List.mem_of_find?_eq_some hslot
  | next _ _ _ _ _ ih => exact ih

theorem MembersReach.exists_quote (h : MembersReach slots s cs slot s' value) :
    ∃ inner, skipGap cs = '"' :: inner := by
  cases h with
  | here hkey | next hkey =>
    obtain ⟨body, inner, hquote, -⟩ := text_eq_ok hkey
    exact ⟨inner, hquote⟩

theorem ItemsReach.mem (h : ItemsReach slots s cs slot s' value) : slot ∈ slots := by
  induction h with
  | here => exact List.mem_cons_self
  | next _ _ _ ih => exact List.mem_cons_of_mem _ ih

theorem RecordReaches.mem {empty : σ} (h : RecordReaches slots empty cs slot s value) :
    slot ∈ slots := by
  cases h with
  | object _ h => exact h.mem
  | array _ _ h => exact h.mem

/-! ## Decoders that do not overflow -/

/-- The decoder is never cut short. -/
def Calm (d : Decoder α) : Prop := ∀ cs, d cs ≠ .error .overflow

theorem need_ne_overflow (o : Option α) : need o ≠ .error .overflow := by
  cases o <;> simp [need]

theorem calm_text : Calm text := by
  intro cs h
  unfold text at h
  split at h
  · obtain hbody | ⟨body, -, hresult⟩ := bind_eq_error_iff.1 h
    · exact need_ne_overflow _ hbody
    · cases hresult
  · cases h

theorem through_eq_overflow_iff {f : α → Option β} {d : Decoder α} :
    through f d cs = .error .overflow ↔ d cs = .error .overflow := by
  constructor
  · intro h
    obtain hread | ⟨a, -, hrest⟩ := bind_eq_error_iff.1 h
    · exact hread
    · obtain hneed | ⟨b, -, hresult⟩ := bind_eq_error_iff.1 hrest
      · exact absurd hneed (need_ne_overflow _)
      · cases hresult
  · intro h
    exact bind_eq_error_iff.2 (.inl h)

theorem calm_through {f : α → Option β} {d : Decoder α} (hd : Calm d) : Calm (through f d) :=
  fun cs h => hd cs (through_eq_overflow_iff.1 h)

theorem calm_number : Calm number := by
  intro cs h
  obtain hlex | ⟨n, -, hrest⟩ := bind_eq_error_iff.1 h
  · exact need_ne_overflow _ hlex
  · obtain hvalue | ⟨v, -, hresult⟩ := bind_eq_error_iff.1 hrest
    · exact need_ne_overflow _ hvalue
    · cases hresult

theorem calm_count : Calm count := calm_through calm_number

theorem calm_real : Calm real := calm_through calm_number

/-! ## Slots -/

section

variable {name : String} {get : σ → Option α} {set : σ → α → σ} {d : Decoder α}

theorem leavesSuffix_slot (hd : LeavesSuffix d) (s : σ) :
    LeavesSuffix ((Json.slot name get set d).read s) := by
  intro cs rest s' h
  obtain ⟨⟨a, rest'⟩, hread, hresult⟩ := bind_eq_ok_iff.1 h
  obtain ⟨-, rfl⟩ := Prod.mk.inj (Except.ok.inj hresult)
  exact hd hread

theorem slot_eq_overflow_iff :
    (Json.slot name get set d).read s cs = .error .overflow ↔ d cs = .error .overflow := by
  constructor
  · intro h
    obtain hread | ⟨a, -, hresult⟩ := bind_eq_error_iff.1 h
    · exact hread
    · cases hresult
  · intro h
    exact bind_eq_error_iff.2 (.inl h)

/-- What each of the slots leaves is an end of the text. -/
def SlotsLeaveSuffix (slots : List (Slot σ)) : Prop := ∀ slot ∈ slots, ∀ s, LeavesSuffix (slot.read s)

theorem slotsLeaveSuffix_nil : SlotsLeaveSuffix ([] : List (Slot σ)) := by
  intro slot hslot
  cases hslot

theorem SlotsLeaveSuffix.cons (h : SlotsLeaveSuffix slots) (hd : LeavesSuffix d) :
    SlotsLeaveSuffix (Json.slot name get set d :: slots) := by
  intro slot hslot s
  obtain rfl | hslot := List.mem_cons.1 hslot
  · exact leavesSuffix_slot hd s
  · exact h slot hslot s

end

/-! ## Members -/

theorem readMember_eq_overflow_iff : readMember slots s key cs = .error .overflow ↔
    ∃ slot, slots.find? (·.name = key) = some slot ∧ slot.filled s = false ∧
      slot.read s cs = .error .overflow := by
  unfold readMember
  split
  · rename_i slot hslot
    cases hfilled : slot.filled s <;> simp [hslot, hfilled]
  · rename_i hnone
    cases skipValue cs <;> simp [hnone, need, bind, Except.bind, pure, Except.pure]

theorem leavesSuffix_readMember (hslots : SlotsLeaveSuffix slots) :
    LeavesSuffix (readMember slots s key) := by
  intro cs rest s' h
  unfold readMember at h
  split at h
  · rename_i slot hslot
    split at h
    · cases h
    · exact hslots slot (List.mem_of_find?_eq_some hslot) s h
  · obtain ⟨rest', hskip, hresult⟩ := bind_eq_ok_iff.1 h
    obtain ⟨-, rfl⟩ := Prod.mk.inj (Except.ok.inj hresult)
    exact skipValue_suffix (need_eq_ok_iff.1 hskip)

/-- One step of reading members: the member at the front overflows, or it is read and a later one
    does. -/
theorem recordMembers_succ_eq_overflow_iff (fuel : Nat) :
    recordMembers slots (fuel + 1) s cs = .error .overflow ↔
      ∃ key rest value, text cs = .ok (key, rest) ∧ skipGap rest = ':' :: value ∧
        (readMember slots s key value = .error .overflow ∨
          ∃ s₁ rest₁ cs₁, readMember slots s key value = .ok (s₁, rest₁) ∧
            skipGap rest₁ = ',' :: cs₁ ∧ recordMembers slots fuel s₁ cs₁ = .error .overflow) := by
  rw [recordMembers, bind_eq_error_iff]
  constructor
  · rintro (htext | ⟨⟨key, rest⟩, hkey, h⟩)
    · exact absurd htext (calm_text cs)
    · dsimp only at h
      split at h
      · rename_i value hcolon
        refine ⟨key, rest, value, hkey, hcolon, ?_⟩
        obtain hread | ⟨⟨s₁, rest₁⟩, hread, h⟩ := bind_eq_error_iff.1 h
        · exact .inl hread
        · dsimp only at h
          split at h
          · rename_i cs₁ hcomma
            exact .inr ⟨s₁, rest₁, cs₁, hread, hcomma, h⟩
          · cases h
          · cases h
      · cases h
  · rintro ⟨key, rest, value, hkey, hcolon, h⟩
    refine .inr ⟨(key, rest), hkey, ?_⟩
    simp only [hcolon]
    rw [bind_eq_error_iff]
    obtain hread | ⟨s₁, rest₁, cs₁, hread, hcomma, h⟩ := h
    · exact .inl hread
    · refine .inr ⟨(s₁, rest₁), hread, ?_⟩
      simp only [hcomma]
      exact h

/-- A reading of members that is cut short has come to the value that does it. -/
theorem exists_membersReach {fuel : Nat} (h : recordMembers slots fuel s cs = .error .overflow) :
    ∃ slot s' value, MembersReach slots s cs slot s' value ∧ slot.read s' value = .error .overflow := by
  induction fuel generalizing s cs with
  | zero => cases h
  | succ fuel ih =>
    obtain ⟨key, rest, value, hkey, hcolon, hread | ⟨s₁, rest₁, cs₁, hread, hcomma, h⟩⟩ :=
      (recordMembers_succ_eq_overflow_iff fuel).1 h
    · obtain ⟨slot, hslot, hfree, hover⟩ := readMember_eq_overflow_iff.1 hread
      exact ⟨slot, s, value, .here hkey hcolon hslot hfree, hover⟩
    · obtain ⟨slot, s', value', hreach, hover⟩ := ih h
      exact ⟨slot, s', value', .next hkey hcolon hread hcomma hreach, hover⟩

/-- A reading of members that comes to a value that overflows is cut short: the bound on the number of
    members is not reached before, since every member takes some of the text. -/
theorem recordMembers_of_membersReach (hslots : SlotsLeaveSuffix slots)
    (h : MembersReach slots s cs slot s' value) (hover : slot.read s' value = .error .overflow)
    {fuel : Nat} (hfuel : cs.length ≤ fuel) : recordMembers slots fuel s cs = .error .overflow := by
  induction h generalizing fuel with
  | here hkey hcolon hslot hfree =>
    have hlength := length_lt_of_text hkey
    obtain ⟨fuel, rfl⟩ : ∃ n, fuel = n + 1 := ⟨fuel - 1, by omega⟩
    refine (recordMembers_succ_eq_overflow_iff fuel).2 ⟨_, _, _, hkey, hcolon, .inl ?_⟩
    exact readMember_eq_overflow_iff.2 ⟨_, hslot, hfree, hover⟩
  | next hkey hcolon hread hcomma _ ih =>
    have hlength := length_lt_of_text hkey
    obtain ⟨fuel, rfl⟩ : ∃ n, fuel = n + 1 := ⟨fuel - 1, by omega⟩
    refine (recordMembers_succ_eq_overflow_iff fuel).2
      ⟨_, _, _, hkey, hcolon, .inr ⟨_, _, _, hread, hcomma, ih hover ?_⟩⟩
    have hvalue := (suffix_of_skipGap hcolon).length_le
    have hrest := ((suffix_of_skipGap hcomma).trans (leavesSuffix_readMember hslots hread)).length_le
    omega

/-! ## Items -/

theorem recordItems_eq_overflow_iff : recordItems slots s cs = .error .overflow ↔
    ∃ slot s' value, ItemsReach slots s cs slot s' value ∧ slot.read s' value = .error .overflow := by
  constructor
  · intro h
    induction slots generalizing s cs with
    | nil => cases h
    | cons first slots ih =>
      rw [recordItems, bind_eq_error_iff] at h
      obtain hover | ⟨⟨s₁, rest₁⟩, hread, h⟩ := h
      · exact ⟨first, s, cs, .here, hover⟩
      · dsimp only at h
        split at h
        · cases h
        · rename_i cs₁ hcomma
          obtain ⟨slot, s', value, hreach, hover⟩ := ih h
          exact ⟨slot, s', value, .next hread hcomma hreach, hover⟩
        · cases h
  · rintro ⟨slot, s', value, hreach, hover⟩
    induction hreach with
    | here => exact bind_eq_error_iff.2 (.inl hover)
    | next hread hcomma _ ih =>
      refine bind_eq_error_iff.2 (.inr ⟨_, hread, ?_⟩)
      simp only [hcomma]
      exact ih hover

/-! ## Records -/

theorem leavesSuffix_recordMembers (hslots : SlotsLeaveSuffix slots)
    (fuel : Nat) : LeavesSuffix (recordMembers slots fuel s) := by
  intro cs rest s' h
  induction fuel generalizing s cs with
  | zero => cases h
  | succ fuel ih =>
    rw [recordMembers] at h
    obtain ⟨⟨key, rest'⟩, hkey, h⟩ := bind_eq_ok_iff.1 h
    refine List.IsSuffix.trans ?_ (leavesSuffix_text hkey)
    dsimp only at h
    split at h
    · rename_i value hcolon
      refine List.IsSuffix.trans ?_ (suffix_of_skipGap hcolon)
      obtain ⟨⟨s₁, rest₁⟩, hread, h⟩ := bind_eq_ok_iff.1 h
      refine List.IsSuffix.trans ?_ (leavesSuffix_readMember hslots hread)
      dsimp only at h
      split at h
      · rename_i hcomma
        exact (ih h).trans (suffix_of_skipGap hcomma)
      · rename_i hclose
        obtain ⟨-, rfl⟩ := Prod.mk.inj (Except.ok.inj h)
        exact suffix_of_skipGap hclose
      · cases h
    · cases h

theorem leavesSuffix_recordItems (hslots : SlotsLeaveSuffix slots) :
    LeavesSuffix (recordItems slots s) := by
  intro cs rest s' h
  induction slots generalizing s cs with
  | nil => cases h
  | cons first slots ih =>
    obtain ⟨hfirst, hslots⟩ := List.forall_mem_cons.1 hslots
    obtain ⟨⟨s₁, rest₁⟩, hread, h⟩ := bind_eq_ok_iff.1 h
    refine List.IsSuffix.trans ?_ (hfirst s hread)
    dsimp only at h
    split at h
    · rename_i hclose
      obtain ⟨-, rfl⟩ := Prod.mk.inj (Except.ok.inj h)
      exact suffix_of_skipGap hclose
    · rename_i hcomma
      exact (ih hslots h).trans (suffix_of_skipGap hcomma)
    · cases h

theorem leavesSuffix_recordFields (hslots : SlotsLeaveSuffix slots)
    (empty : σ) : LeavesSuffix (recordFields slots empty) := by
  intro cs rest s h
  unfold recordFields at h
  split at h
  · rename_i hopen
    refine List.IsSuffix.trans ?_ (suffix_of_skipGap hopen)
    split at h
    · rename_i hclose
      obtain ⟨-, rfl⟩ := Prod.mk.inj (Except.ok.inj h)
      exact suffix_of_skipGap hclose
    · exact (leavesSuffix_recordMembers hslots _ h).trans (skipGap_suffix _)
  · rename_i hopen
    refine List.IsSuffix.trans ?_ (suffix_of_skipGap hopen)
    split at h
    · rename_i hclose
      obtain ⟨-, rfl⟩ := Prod.mk.inj (Except.ok.inj h)
      exact suffix_of_skipGap hclose
    · exact (leavesSuffix_recordItems hslots h).trans (skipGap_suffix _)
  · cases h

theorem leavesSuffix_record (hslots : SlotsLeaveSuffix slots) (empty : σ)
    (finish : σ → Option α) : LeavesSuffix (record slots empty finish) :=
  leavesSuffix_through (leavesSuffix_recordFields hslots empty)

theorem recordFields_eq_overflow_iff (hslots : SlotsLeaveSuffix slots)
    (empty : σ) : recordFields slots empty cs = .error .overflow ↔
      ∃ slot s value, RecordReaches slots empty cs slot s value ∧
        slot.read s value = .error .overflow := by
  unfold recordFields
  constructor
  · intro h
    split at h
    · rename_i rest hopen
      split at h
      · cases h
      · obtain ⟨slot, s, value, hreach, hover⟩ := exists_membersReach h
        exact ⟨slot, s, value, .object hopen hreach, hover⟩
    · rename_i rest hopen
      split at h
      · cases h
      · rename_i hitem
        obtain ⟨slot, s, value, hreach, hover⟩ := recordItems_eq_overflow_iff.1 h
        refine ⟨slot, s, value, .array hopen ?_ hreach, hover⟩
        intro hhead
        obtain ⟨rest', hrest'⟩ := List.head?_eq_some_iff.1 hhead
        exact hitem rest' hrest'
    · cases h
  · rintro ⟨slot, s, value, hreach, hover⟩
    cases hreach with
    | object hopen h =>
      simp only [hopen]
      split
      · rename_i hclose
        obtain ⟨inner, hquote⟩ := h.exists_quote
        rw [hclose] at hquote
        cases hquote
      · exact recordMembers_of_membersReach hslots h hover (Nat.le_refl _)
    | array hopen hitem h =>
      simp only [hopen]
      split
      · rename_i hclose
        rw [hclose] at hitem
        exact absurd rfl hitem
      · exact recordItems_eq_overflow_iff.2 ⟨slot, s, value, h, hover⟩

/-- **A record overflows exactly where its reading comes to a value that does.** -/
theorem record_eq_overflow_iff (hslots : SlotsLeaveSuffix slots) (empty : σ)
    (finish : σ → Option α) : record slots empty finish cs = .error .overflow ↔
      ∃ slot s value, RecordReaches slots empty cs slot s value ∧
        slot.read s value = .error .overflow := by
  rw [record, through_eq_overflow_iff, recordFields_eq_overflow_iff hslots]

/-! ## Records with one member that may overflow -/

/-- Of these slots only the one of this name may overflow, and its value is read by `d`. -/
def OverflowsAt (slots : List (Slot σ)) (name : String) (d : Decoder β) : Prop :=
  ∀ slot ∈ slots, ∀ s cs, slot.read s cs = .error .overflow ↔
    slot.name = name ∧ d cs = .error .overflow

theorem overflowsAt_nil (name : String) (d : Decoder β) : OverflowsAt ([] : List (Slot σ)) name d := by
  intro slot hslot
  cases hslot

theorem OverflowsAt.cons_self {name : String} {get : σ → Option β} {set : σ → β → σ}
    {d : Decoder β} (h : OverflowsAt slots name d) :
    OverflowsAt (Json.slot name get set d :: slots) name d := by
  intro slot hslot s cs
  obtain rfl | hslot := List.mem_cons.1 hslot
  · rw [slot_eq_overflow_iff]
    exact (and_iff_right rfl).symm
  · exact h slot hslot s cs

theorem OverflowsAt.cons_calm {name other : String} {get : σ → Option α} {set : σ → α → σ}
    {d : Decoder β} {e : Decoder α} (h : OverflowsAt slots name d) (he : Calm e)
    (hother : other ≠ name) : OverflowsAt (Json.slot other get set e :: slots) name d := by
  intro slot hslot s cs
  obtain rfl | hslot := List.mem_cons.1 hslot
  · rw [slot_eq_overflow_iff]
    exact ⟨fun hover => absurd hover (he cs), fun hname => absurd hname.1 hother⟩
  · exact h slot hslot s cs

/-- Reading a record comes to the value of the member of this name. -/
def ComesTo (slots : List (Slot σ)) (empty : σ) (cs : List Char) (name : String)
    (value : List Char) : Prop :=
  ∃ slot s, RecordReaches slots empty cs slot s value ∧ slot.name = name

theorem record_overflow_iff_comesTo {name : String} {d : Decoder β}
    (hslots : SlotsLeaveSuffix slots) (hat : OverflowsAt slots name d)
    (empty : σ) (finish : σ → Option α) : record slots empty finish cs = .error .overflow ↔
      ∃ value, ComesTo slots empty cs name value ∧ d value = .error .overflow := by
  rw [record_eq_overflow_iff hslots]
  constructor
  · rintro ⟨slot, s, value, hreach, hover⟩
    obtain ⟨hname, hover⟩ := (hat slot hreach.mem s value).1 hover
    exact ⟨value, ⟨slot, s, hreach, hname⟩, hover⟩
  · rintro ⟨value, ⟨slot, s, hreach, hname⟩, hover⟩
    exact ⟨slot, s, value, hreach, (hat slot hreach.mem s value).2 ⟨hname, hover⟩⟩

theorem decode_eq_overflow_iff {d : Decoder α} {text : String} :
    decode d text = .error .overflow ↔ d text.toList = .error .overflow := by
  constructor
  · intro h
    obtain hread | ⟨⟨a, rest⟩, -, hrest⟩ := bind_eq_error_iff.1 h
    · exact hread
    · dsimp only at hrest
      split at hrest <;> cases hrest
  · intro h
    exact bind_eq_error_iff.2 (.inl h)

end Uplift.Json
