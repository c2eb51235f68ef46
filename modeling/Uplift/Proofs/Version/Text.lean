import Uplift.Proofs.List
import Uplift.Proofs.Text.Numeral
import Uplift.Version.Text

set_option autoImplicit false

/-! # A version has one text

The strict grammar leaves no choice: numbers have no superfluous zeros, and nothing may stand around
the version. So a text that is read as a version is the text of that version (`text_of_read?`), and
two texts that are read as the same version are equal.

The other way round, the text of a version is read as that version (`read?_text`). No part contains a
separator that the reader cuts at before it gets to the part: numbers have neither dots nor hyphens,
and parts of tags have hyphens, but neither dots nor plus signs. -/

namespace Uplift

open Text

theorem dotted_of_mapM_splitAt {β : Type} {read : List Char → Option β} {print : β → List Char}
    (hread : ∀ cs b, read cs = some b → print b = cs) {cs : List Char} {bs : List β}
    (h : (Text.splitAt '.' cs).mapM read = some bs) : dotted (bs.map print) = cs ∧ bs ≠ [] := by
  have hmap : bs.map print = Text.splitAt '.' cs := map_of_mapM_eq_some hread h
  refine ⟨by rw [hmap, dotted, intercalate_splitAt], ?_⟩
  rintro rfl
  exact splitWhere_ne_nil _ cs hmap.symm

/-! ## Parts -/

theorem digits_of_versionNumber? {cs : List Char} {n : UInt64} (h : versionNumber? cs = some n) :
    digits n.toNat = cs := by
  unfold versionNumber? at h
  split at h
  · rename_i hcanonical
    simp only [word64Of?, natOf?, isNumeral_of_isCanonical hcanonical, ↓reduceIte, Option.bind_some,
      Option.ite_none_right_eq_some, Option.some.injEq] at h
    obtain ⟨hsize, rfl⟩ := h
    rw [UInt64.toNat_ofNat_of_lt' hsize, digits_ofDigits hcanonical]
  · cases h

theorem PrePart.chars_of_read? {cs : List Char} {p : PrePart} (h : PrePart.read? cs = some p) :
    p.chars = cs := by
  unfold PrePart.read? at h
  split at h
  · obtain rfl := Option.some.inj h
    exact String.toList_ofList
  · split at h
    · rename_i hcanonical
      obtain rfl := Option.some.inj h
      exact digits_ofDigits hcanonical
    · cases h

theorem BuildPart.toList_of_read? {cs : List Char} {p : BuildPart} (h : BuildPart.read? cs = some p) :
    p.text.toList = cs := by
  unfold BuildPart.read? at h
  split at h
  · obtain rfl := Option.some.inj h
    exact String.toList_ofList
  · cases h

namespace Version

/-! ## Versions -/

/-- The three numbers, with a tag that was read or not. -/
def readCore? (front : List Char) (pre? : Option (List PrePart)) (build : List BuildPart) :
    Option Version :=
  match Text.splitAt '.' front with
  | [major, minor, patch] => do
    let major ← versionNumber? major
    let minor ← versionNumber? minor
    let patch ← versionNumber? patch
    let pre ← pre?
    return ⟨major, minor, patch, pre, build⟩
  | _ => none

theorem readTagged?_eq (cs : List Char) (build : List BuildPart) :
    readTagged? cs build = match splitFirst '-' cs with
      | some (front, pre) => readCore? front (readPre? pre) build
      | none => readCore? cs (some []) build := by
  unfold readTagged?
  cases splitFirst '-' cs <;> rfl

theorem readCore?_eq_some {front : List Char} {pre? : Option (List PrePart)} {build : List BuildPart}
    {v : Version} (h : readCore? front pre? build = some v) :
    v.coreChars = front ∧ pre? = some v.pre ∧ v.build = build := by
  unfold readCore? at h
  split at h
  · rename_i major minor patch hsplit
    simp only [Option.bind_eq_bind, Option.bind_eq_some_iff, Option.pure_def, Option.some.injEq] at h
    obtain ⟨_, hmajor, _, hminor, _, hpatch, pre, hpre, rfl⟩ := h
    refine ⟨?_, hpre, rfl⟩
    rw [coreChars, digits_of_versionNumber? hmajor, digits_of_versionNumber? hminor,
      digits_of_versionNumber? hpatch, dotted, ← hsplit, intercalate_splitAt]
  · cases h

theorem readTagged?_eq_some {cs : List Char} {build : List BuildPart} {v : Version}
    (h : readTagged? cs build = some v) :
    v.build = build ∧ v.coreChars ++ (if v.pre.isEmpty then [] else '-' :: v.preChars) = cs := by
  rw [readTagged?_eq] at h
  split at h
  · -- the tag stands behind the first hyphen
    rename_i front pre hsplit
    obtain ⟨hcore, hpre, hbuild⟩ := readCore?_eq_some h
    obtain ⟨htag, hne⟩ := dotted_of_mapM_splitAt (fun _ _ => PrePart.chars_of_read?) hpre
    refine ⟨hbuild, ?_⟩
    rw [(splitFirst_eq_some hsplit).1, hcore, preChars, htag]
    simp [hne]
  · obtain ⟨hcore, hpre, hbuild⟩ := readCore?_eq_some h
    refine ⟨hbuild, ?_⟩
    rw [hcore, ← Option.some.inj hpre]
    simp

/-- **A text that is read as a version is its text.** -/
theorem chars_of_readChars? {cs : List Char} {v : Version} (h : readChars? cs = some v) :
    v.chars = cs := by
  unfold readChars? at h
  split at h
  · rename_i front build hsplit
    obtain ⟨parts, hparts, h⟩ := Option.bind_eq_some_iff.1 h
    obtain ⟨rfl, hfront⟩ := readTagged?_eq_some h
    obtain ⟨hbuild, hne⟩ := dotted_of_mapM_splitAt (fun _ _ => BuildPart.toList_of_read?) hparts
    rw [(splitFirst_eq_some hsplit).1, chars, hfront, buildChars, hbuild]
    simp [hne]
  · obtain ⟨hbuild, hfront⟩ := readTagged?_eq_some h
    rw [chars, hfront, hbuild]
    simp

theorem text_of_read? {s : String} {v : Version} (h : read? s = some v) : v.text = s := by
  rw [text, chars_of_readChars? h, String.ofList_toList]

end Version

/-! ## Reading what was printed -/

theorem versionNumber?_digits (n : UInt64) : versionNumber? (digits n.toNat) = some n := by
  have hcanonical := isCanonical_digits n.toNat
  have hsize : n.toNat < UInt64.size := n.toNat_lt
  simp [versionNumber?, hcanonical, word64Of?, natOf?, isNumeral_of_isCanonical hcanonical, hsize]

/-- A separator is no digit, so it is in no number. -/
theorem notMem_digits {c : Char} (hc : c.isDigit = false) (n : Nat) : c ∉ digits n := by
  intro hmem
  rw [isDigit_of_mem_digits hmem] at hc
  cases hc

theorem isPartChar_of_isPart {cs : List Char} (h : isPart cs = true) :
    ∀ c ∈ cs, isPartChar c = true := by
  simp only [isPart, Bool.and_eq_true, List.all_eq_true] at h
  exact h.2

theorem isPartChar_of_mem_chars {p : PrePart} {c : Char} (h : c ∈ p.chars) : isPartChar c = true := by
  cases p with
  | number n => simp [isPartChar, Char.isAlphanum, isDigit_of_mem_digits h]
  | word w =>
    have hword := w.isWord_text
    simp only [isWord, Bool.and_eq_true] at hword
    exact isPartChar_of_isPart hword.1 c h

theorem PrePart.read?_chars (p : PrePart) : PrePart.read? p.chars = some p := by
  cases p with
  | number n =>
    have hdigits : (digits n).all Char.isDigit = true :=
      List.all_eq_true.2 fun c hc => isDigit_of_mem_digits hc
    simp [PrePart.read?, PrePart.chars, isWord, hdigits, isCanonical_digits]
  | word w => simp [PrePart.read?, PrePart.chars, w.isWord_text]

theorem BuildPart.read?_toList (p : BuildPart) : BuildPart.read? p.text.toList = some p := by
  simp [BuildPart.read?, p.isPart_text]

theorem mapM_splitAt_dotted {β : Type} {read : List Char → Option β} {print : β → List Char}
    {bs : List β} (hne : bs ≠ []) (hdot : ∀ b ∈ bs, '.' ∉ print b)
    (hread : ∀ b ∈ bs, read (print b) = some b) :
    (Text.splitAt '.' (dotted (bs.map print))).mapM read = some bs := by
  have hpieces : ∀ piece ∈ bs.map print, '.' ∉ piece := by
    intro piece hmem
    obtain ⟨b, hb, rfl⟩ := List.mem_map.1 hmem
    exact hdot b hb
  rw [dotted, splitAt_intercalate (by simpa using hne) hpieces, mapM_map_eq_some hread]

theorem notMem_dotted {c : Char} {parts : List (List Char)} (hc : c ≠ '.')
    (h : ∀ part ∈ parts, c ∉ part) : c ∉ dotted parts :=
  notMem_intercalate (by simpa using hc) h

namespace Version

theorem notMem_coreChars {c : Char} (hdot : c ≠ '.') (hdigit : c.isDigit = false) (v : Version) :
    c ∉ v.coreChars := by
  refine notMem_dotted hdot fun part hpart => ?_
  simp only [List.mem_cons, List.not_mem_nil, or_false] at hpart
  rcases hpart with rfl | rfl | rfl <;> exact notMem_digits hdigit _

theorem notMem_preChars {c : Char} (hdot : c ≠ '.') (hpart : isPartChar c = false) (v : Version) :
    c ∉ v.preChars := by
  refine notMem_dotted hdot fun part hmem hc => ?_
  obtain ⟨p, -, rfl⟩ := List.mem_map.1 hmem
  rw [isPartChar_of_mem_chars hc] at hpart
  cases hpart

theorem readCore?_coreChars (v : Version) :
    readCore? v.coreChars (some v.pre) v.build = some v := by
  have hsplit : Text.splitAt '.' v.coreChars
      = [digits v.major.toNat, digits v.minor.toNat, digits v.patch.toNat] := by
    refine splitAt_intercalate (by simp) fun piece hmem => ?_
    simp only [List.mem_cons, List.not_mem_nil, or_false] at hmem
    rcases hmem with rfl | rfl | rfl <;> exact notMem_digits rfl _
  simp [readCore?, hsplit, versionNumber?_digits]

theorem readPre?_preChars {v : Version} (h : v.pre ≠ []) : readPre? v.preChars = some v.pre :=
  mapM_splitAt_dotted h (fun _ _ hc => by cases isPartChar_of_mem_chars hc)
    fun p _ => p.read?_chars

theorem readBuild?_buildChars {v : Version} (h : v.build ≠ []) :
    readBuild? v.buildChars = some v.build :=
  mapM_splitAt_dotted h (fun p _ hc => by cases isPartChar_of_isPart p.isPart_text _ hc)
    fun p _ => p.read?_toList

/-- The text before the build metadata, as it is printed. -/
theorem readTagged?_chars (v : Version) :
    readTagged? (v.coreChars ++ (if v.pre.isEmpty then [] else '-' :: v.preChars)) v.build
      = some v := by
  have hcore : '-' ∉ v.coreChars := notMem_coreChars (by decide) rfl v
  rw [readTagged?_eq]
  cases hpre : v.pre with
  | nil =>
    have hnone : splitFirst '-' (v.coreChars ++ []) = none :=
      splitFirst_eq_none.2 (by simpa using hcore)
    simp only [List.isEmpty_nil, ↓reduceIte, hnone]
    rw [List.append_nil, ← hpre, readCore?_coreChars]
  | cons p ps =>
    have hne : v.pre ≠ [] := by simp [hpre]
    simp only [List.isEmpty_cons, Bool.false_eq_true, ↓reduceIte, splitFirst_append hcore]
    rw [readPre?_preChars hne, readCore?_coreChars]

/-- **The text of a version is read as that version.** -/
theorem readChars?_chars (v : Version) : readChars? v.chars = some v := by
  have hfront : '+' ∉ v.coreChars ++ (if v.pre.isEmpty then [] else '-' :: v.preChars) := by
    have hcore : '+' ∉ v.coreChars := notMem_coreChars (by decide) rfl v
    have hpre : '+' ∉ v.preChars := notMem_preChars (by decide) rfl v
    split <;> simp [hcore, hpre]
  unfold readChars? chars
  cases hbuild : v.build with
  | nil =>
    rw [List.isEmpty_nil, if_pos rfl, List.append_nil, splitFirst_eq_none.2 hfront, ← hbuild]
    exact readTagged?_chars v
  | cons p ps =>
    have hne : v.build ≠ [] := by simp [hbuild]
    simp only [List.isEmpty_cons, Bool.false_eq_true, ↓reduceIte, splitFirst_append hfront]
    rw [readBuild?_buildChars hne]
    exact readTagged?_chars v

@[simp] theorem read?_text (v : Version) : read? v.text = some v := by
  rw [read?, text, String.toList_ofList, readChars?_chars]

theorem text_injective {v w : Version} (h : v.text = w.text) : v = w := by
  have hread : some v = some w := by rw [← read?_text v, h, read?_text w]
  exact Option.some.inj hread

end Version

/-! ## Reading leniently

The lenient reader drops blanks and a leading `v` before it reads. A version has neither, so it is read
as by the strict one. -/

/-- Trimming stops at the first character that is not blank. -/
theorem exists_trim_eq_cons {d : Char} (hd : isBlank d = false) (rest : List Char) :
    ∃ rest', trim (d :: rest) = d :: rest' := by
  have hleft : trimLeft (d :: rest) = d :: rest := by simp [trimLeft, hd]
  rw [trim, hleft, trimRight, List.reverse_cons, List.dropWhile_append]
  split
  · exact ⟨[], by simp [hd]⟩
  · exact ⟨_, by rw [List.reverse_append]; rfl⟩

theorem toNat_of_isPartChar {c : Char} (h : isPartChar c = true) :
    c.toNat = 45 ∨ (48 ≤ c.toNat ∧ c.toNat ≤ 122) := by
  have hclass : ((decide ('A'.val ≤ c.val ∧ c.val ≤ 'Z'.val) ||
      (decide ('a'.val ≤ c.val) && decide (c.val ≤ 'z'.val))) ||
      (decide ('0'.val ≤ c.val) && decide (c.val ≤ '9'.val)) || c == '-') = true := h
  have hrange : ((65 ≤ c.toNat ∧ c.toNat ≤ 90 ∨ 97 ≤ c.toNat ∧ c.toNat ≤ 122) ∨
      48 ≤ c.toNat ∧ c.toNat ≤ 57) ∨ c = '-' := by
    simpa [UInt32.le_iff_toNat_le] using hclass
  rcases hrange with hrange | rfl
  · exact Or.inr (by omega)
  · exact Or.inl rfl

theorem isBlank_of_isPartChar {c : Char} (h : isPartChar c = true) : isBlank c = false := by
  have hc := toNat_of_isPartChar h
  simp only [isBlank, Bool.or_eq_false_iff, Bool.and_eq_false_iff, decide_eq_false_iff_not,
    beq_eq_false_iff_ne]
  omega

namespace Version

theorem notMem_buildChars {c : Char} (hdot : c ≠ '.') (hpart : isPartChar c = false) (v : Version) :
    c ∉ v.buildChars := by
  refine notMem_dotted hdot fun part hmem hc => ?_
  obtain ⟨p, -, rfl⟩ := List.mem_map.1 hmem
  rw [isPartChar_of_isPart p.isPart_text c hc] at hpart
  cases hpart

theorem notMem_chars {c : Char} (hdot : c ≠ '.') (hplus : c ≠ '+') (hpart : isPartChar c = false)
    (v : Version) : c ∉ v.chars := by
  have hyphen : c ≠ '-' := by
    rintro rfl
    cases hpart
  have hdigit : c.isDigit = false := by
    simp only [isPartChar, Char.isAlphanum, Bool.or_eq_false_iff] at hpart
    exact hpart.1.2
  have hcore := notMem_coreChars hdot hdigit v
  have hpre := notMem_preChars hdot hpart v
  have hbuild := notMem_buildChars hdot hpart v
  unfold chars
  split <;> split <;> simp [hcore, hpre, hbuild, hyphen, hplus]

theorem isBlank_of_mem_chars {v : Version} {c : Char} (h : c ∈ v.chars) : isBlank c = false := by
  cases hpart : isPartChar c with
  | true => exact isBlank_of_isPartChar hpart
  | false =>
    by_cases hdot : c = '.'
    · rw [hdot]
      rfl
    · by_cases hplus : c = '+'
      · rw [hplus]
        rfl
      · exact absurd h (notMem_chars hdot hplus hpart v)

theorem exists_chars_eq_cons (v : Version) :
    ∃ d rest, v.chars = d :: rest ∧ d.isDigit = true := by
  obtain ⟨d, rest, hdigits⟩ := List.exists_cons_of_ne_nil (digits_ne_nil v.major.toNat)
  have hd : d.isDigit = true := isDigit_of_mem_digits (hdigits ▸ List.mem_cons_self)
  rw [chars, coreChars, dotted, List.intercalate_cons_cons, hdigits]
  exact ⟨d, _, rfl, hd⟩

theorem chars_ne_nil (v : Version) : v.chars ≠ [] := by
  obtain ⟨d, rest, hchars, -⟩ := v.exists_chars_eq_cons
  simp [hchars]

/-- What is read leniently starts with a blank, a `v` or a digit. -/
theorem head_of_readLenient? {d : Char} {rest : List Char} {v : Version}
    (h : readLenient? (String.ofList (d :: rest)) = some v) :
    isBlank d = true ∨ d = 'v' ∨ d.isDigit = true := by
  by_cases hblank : isBlank d = true
  · exact .inl hblank
  by_cases hv : d = 'v'
  · exact .inr (.inl hv)
  -- nothing is dropped in front of `d`, so it is the first digit of the version
  obtain ⟨rest', htrim⟩ := exists_trim_eq_cons (Bool.eq_false_iff.2 hblank) rest
  have hfront : dropPrefix? ['v'] (d :: rest') = none := by simp [dropPrefix?, Ne.symm hv]
  simp only [readLenient?, String.toList_ofList, htrim, hfront, Option.getD_none] at h
  obtain ⟨c, cs, hchars, hc⟩ := v.exists_chars_eq_cons
  have heq : c :: cs = d :: rest' := hchars.symm.trans (chars_of_readChars? h)
  obtain ⟨rfl, -⟩ := List.cons.inj heq
  exact .inr (.inr hc)

/-- The text of a version is read as that version, also by the lenient reader. -/
@[simp] theorem readLenient?_text (v : Version) : readLenient? v.text = some v := by
  have htrim : trim v.chars = v.chars := trim_of_forall fun _ => isBlank_of_mem_chars
  have hfront : dropPrefix? ['v'] v.chars = none := by
    obtain ⟨d, rest, hchars, hd⟩ := v.exists_chars_eq_cons
    have hv : 'v' ≠ d := by
      rintro rfl
      cases hd
    simp [hchars, dropPrefix?, hv]
  simp only [readLenient?, text, String.toList_ofList, htrim, hfront, Option.getD_none,
    readChars?_chars]

end Version

end Uplift
