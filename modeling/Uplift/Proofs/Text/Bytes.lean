import Uplift.Glob

set_option autoImplicit false

/-! # The order of texts is the order of their bytes

Texts are compared by their characters. In UTF-8 this is the same as comparing them byte by byte
(`utf8_lt_utf8`): a character is a lead byte and continuation bytes with six bits each, most significant
first. Of two characters of one length the greater has the greater bytes, and a longer character has a
greater lead byte. Hence different texts have different bytes (`utf8_injective`). All bytes of longer
characters have their highest bit set, so that the byte of a slash stands for a slash
(`slash_notMem_utf8`). -/

namespace Uplift

/-! ## One character -/

/-- The bytes of a number with `k` continuation bytes, whose lead byte is marked. -/
def leadAndTrail (mark : Nat) : Nat → Nat → List UInt8
  | 0, n => [UInt8.ofNat (n + mark)]
  | k + 1, n => leadAndTrail mark k (n / 64) ++ [UInt8.ofNat (n % 64 + 128)]

/-- What is in the lead byte in front of `k` continuation bytes. -/
def leadBits : Nat → Nat → Nat
  | 0, n => n
  | k + 1, n => leadBits k (n / 64)

theorem ofNat_lt_ofNat {m n : Nat} (hn : n < 256) (h : m < n) : UInt8.ofNat m < UInt8.ofNat n := by
  rw [UInt8.lt_iff_toNat_lt, UInt8.toNat_ofNat_of_lt' hn, UInt8.toNat_ofNat_of_lt' (Nat.lt_trans h hn)]
  exact h

theorem exists_leadAndTrail_eq_cons (mark k n : Nat) :
    ∃ trail, leadAndTrail mark k n = UInt8.ofNat (leadBits k n + mark) :: trail := by
  induction k generalizing n with
  | zero => exact ⟨[], rfl⟩
  | succ k ih =>
    obtain ⟨trail, htrail⟩ := ih (n / 64)
    exact ⟨trail ++ [UInt8.ofNat (n % 64 + 128)], by rw [leadAndTrail, htrail]; rfl⟩

/-- Of two numbers with as many bytes, the greater has the greater bytes, whatever follows. -/
theorem leadAndTrail_append_lt {mark k m n : Nat} (hlead : leadBits k n + mark < 256) (h : m < n)
    (xs ys : List UInt8) : leadAndTrail mark k m ++ xs < leadAndTrail mark k n ++ ys := by
  induction k generalizing m n xs ys with
  | zero => exact List.cons_lt_cons_iff.2 (Or.inl (ofNat_lt_ofNat hlead (by omega)))
  | succ k ih =>
    rw [leadAndTrail, leadAndTrail, List.append_assoc, List.append_assoc]
    -- the higher bits decide, or they are the same and the last byte decides
    rcases Nat.lt_or_ge (m / 64) (n / 64) with hhigh | hhigh
    · exact ih hlead hhigh _ _
    · have hsame : m / 64 = n / 64 := by omega
      have hlast : UInt8.ofNat (m % 64 + 128) < UInt8.ofNat (n % 64 + 128) :=
        ofNat_lt_ofNat (by omega) (by omega)
      rw [hsame]
      exact List.append_left_lt (List.cons_lt_cons_iff.2 (Or.inl hlast))

/-- The mark of the lead byte and the number of continuation bytes of a character. -/
def utf8Shape (n : Nat) : Nat × Nat :=
  if n ≤ 0x7f then (0, 0)
  else if n ≤ 0x7ff then (0xc0, 1)
  else if n ≤ 0xffff then (0xe0, 2)
  else (0xf0, 3)

/-- The lead byte of a character. -/
def utf8Lead (n : Nat) : Nat := leadBits (utf8Shape n).2 n + (utf8Shape n).1

theorem toNat_lt (c : Char) : c.toNat < 0x110000 := by
  rcases c.valid with h | h
  · exact Nat.lt_trans h (by decide)
  · exact h.2

theorem utf8EncodeChar_eq (c : Char) : String.utf8EncodeChar c
    = leadAndTrail (utf8Shape c.toNat).1 (utf8Shape c.toNat).2 c.toNat := by
  have hc := toNat_lt c
  simp only [String.utf8EncodeChar, Char.toNat_val, utf8Shape]
  split
  · rfl
  · split
    · have hlead : c.toNat / 64 % 32 = c.toNat / 64 := by omega
      rw [hlead]
      rfl
    · split
      · have hlead : c.toNat / 4096 % 16 = c.toNat / 64 / 64 := by omega
        rw [hlead]
        rfl
      · have hlead : c.toNat / 262144 % 8 = c.toNat / 64 / 64 / 64 := by omega
        have hnext : c.toNat / 4096 % 64 = c.toNat / 64 / 64 % 64 := by omega
        rw [hlead, hnext]
        rfl

theorem utf8Lead_eq (n : Nat) : utf8Lead n =
    if n ≤ 0x7f then n
    else if n ≤ 0x7ff then n / 64 + 0xc0
    else if n ≤ 0xffff then n / 64 / 64 + 0xe0
    else n / 64 / 64 / 64 + 0xf0 := by
  unfold utf8Lead utf8Shape
  split
  · rfl
  · split
    · rfl
    · split <;> rfl

theorem utf8Lead_lt (c : Char) : utf8Lead c.toNat < 256 := by
  have hc := toNat_lt c
  rw [utf8Lead_eq]
  repeat' split
  all_goals omega

/-- A smaller character has the same shape or a smaller lead byte. -/
theorem utf8Shape_eq_or_utf8Lead_lt {m n : Nat} (h : m < n) :
    utf8Shape m = utf8Shape n ∨ utf8Lead m < utf8Lead n := by
  by_cases hshape : utf8Shape m = utf8Shape n
  · exact Or.inl hshape
  · refine Or.inr ?_
    rw [utf8Lead_eq, utf8Lead_eq]
    unfold utf8Shape at hshape
    repeat' split
    -- a longer character has a greater mark
    all_goals try omega
    all_goals simp_all

theorem utf8EncodeChar_append_lt {c d : Char} (h : c < d) (xs ys : List UInt8) :
    String.utf8EncodeChar c ++ xs < String.utf8EncodeChar d ++ ys := by
  have hnat : c.toNat < d.toNat := UInt32.lt_iff_toNat_lt.1 h
  rw [utf8EncodeChar_eq, utf8EncodeChar_eq]
  rcases utf8Shape_eq_or_utf8Lead_lt hnat with hshape | hlead
  · rw [hshape]
    exact leadAndTrail_append_lt (utf8Lead_lt d) hnat xs ys
  · obtain ⟨trail, htrail⟩ :=
      exists_leadAndTrail_eq_cons (utf8Shape c.toNat).1 (utf8Shape c.toNat).2 c.toNat
    obtain ⟨trail', htrail'⟩ :=
      exists_leadAndTrail_eq_cons (utf8Shape d.toNat).1 (utf8Shape d.toNat).2 d.toNat
    rw [htrail, htrail']
    exact List.cons_lt_cons_iff.2 (Or.inl (ofNat_lt_ofNat (utf8Lead_lt d) hlead))

/-! ## Texts -/

/-- **A text that comes first by its characters comes first by its bytes.** -/
theorem utf8_lt_utf8 {cs ds : List Char} (h : cs < ds) : utf8 cs < utf8 ds := by
  induction h with
  | @nil d ds =>
    obtain ⟨b, bs, hd⟩ := List.exists_cons_of_ne_nil (String.utf8EncodeChar_ne_nil (c := d))
    rw [utf8, utf8, List.flatMap_cons, hd]
    exact List.nil_lt_cons b _
  | @rel c cs d ds hcd => exact utf8EncodeChar_append_lt hcd _ _
  | @cons c cs ds _ ih => exact List.append_left_lt ih

theorem utf8_lt_of_compare {s t : String} (h : compare s t = .lt) :
    utf8 s.toList < utf8 t.toList :=
  utf8_lt_utf8 (compareOfLessAndEq_eq_lt.1 h : s < t)

theorem utf8_injective {cs ds : List Char} (h : utf8 cs = utf8 ds) : cs = ds := by
  rcases Std.lt_trichotomy cs ds with hlt | heq | hgt
  · have hbytes := utf8_lt_utf8 hlt
    rw [h] at hbytes
    exact absurd hbytes (List.lt_irrefl _)
  · exact heq
  · have hbytes := utf8_lt_utf8 hgt
    rw [h] at hbytes
    exact absurd hbytes (List.lt_irrefl _)

theorem utf8_append (cs ds : List Char) : utf8 (cs ++ ds) = utf8 cs ++ utf8 ds := List.flatMap_append

/-! ## Slashes -/

/-- Every byte is the lead byte or has its highest bit set. -/
theorem mem_leadAndTrail {mark k n : Nat} {b : UInt8} (h : b ∈ leadAndTrail mark k n) :
    b = UInt8.ofNat (leadBits k n + mark) ∨ 128 ≤ b.toNat := by
  induction k generalizing n with
  | zero => exact Or.inl (List.mem_singleton.1 h)
  | succ k ih =>
    rw [leadAndTrail, List.mem_append, List.mem_singleton] at h
    rcases h with h | rfl
    · exact ih h
    · refine Or.inr ?_
      rw [UInt8.toNat_ofNat_of_lt' (show n % 64 + 128 < 256 by omega)]
      omega

/-- Only a slash has the byte of a slash. -/
theorem eq_slash_of_mem {c : Char} (h : Glob.slash ∈ String.utf8EncodeChar c) : c = '/' := by
  rw [utf8EncodeChar_eq] at h
  rcases mem_leadAndTrail h with hlead | hhigh
  · have hnat : utf8Lead c.toNat = 47 := by
      have hbyte : Glob.slash = UInt8.ofNat (utf8Lead c.toNat) := hlead
      have hsame := congrArg UInt8.toNat hbyte
      rw [UInt8.toNat_ofNat_of_lt' (utf8Lead_lt c)] at hsame
      exact hsame.symm
    -- longer characters have a greater lead byte
    have hc : c.toNat = 47 := by
      rw [utf8Lead_eq] at hnat
      split at hnat
      · exact hnat
      · split at hnat
        · omega
        · split at hnat <;> omega
    exact Char.toNat_inj.1 hc
  · exact absurd hhigh (by decide)

theorem slash_notMem_utf8 {cs : List Char} (h : '/' ∉ cs) : Glob.slash ∉ utf8 cs := by
  intro hmem
  obtain ⟨c, hc, hbyte⟩ := List.mem_flatMap.1 hmem
  exact h (eq_slash_of_mem hbyte ▸ hc)

theorem utf8_intercalate (pieces : List (List Char)) :
    utf8 (['/'].intercalate pieces) = [Glob.slash].intercalate (pieces.map utf8) := by
  induction pieces with
  | nil => rfl
  | cons piece rest ih =>
    cases rest with
    | nil => simp
    | cons next rest =>
      simp only [List.map_cons] at ih ⊢
      rw [List.intercalate_cons_cons, List.intercalate_cons_cons, utf8_append, utf8_append, ih]
      rfl

end Uplift
