import Uplift.Text.Title

set_option autoImplicit false

/-! # What a title is made of

A title keeps nothing of a name but its letters and numbers. Words are cut out of the runs between all
other characters, so these are gone once the words are found (`isAlphanumeric_of_mem_titleWords`). The
words are then mapped to upper and lower case, with blanks between them. A character that is no letter,
no number and no blank is in a title only if a case mapping leads to it, and whether one does is a
question about the tables, not about the name (`notMem_titleCase`). -/

namespace Uplift.Text

/-! ## Case mappings -/

/-- A run leads to a code point from one place only. -/
theorem CaseRun.eq_of_target? {r : CaseRun} {m n : Nat} (hn : 0 < n) (h : r.target? m = some n) :
    m = ((n : Int) - r.offset).toNat := by
  unfold target? at h
  split at h
  · have htarget := Option.some.inj h
    omega
  · cases h

/-- Whether a table of case mappings leads to a character. -/
def isMapped (runs : List CaseRun) (specials : List (Nat × List Nat)) (d : Char) : Bool :=
  specials.any (fun entry => entry.2.contains d.toNat) ||
    runs.any fun r => r.target? ((d.toNat : Int) - r.offset).toNat == some d.toNat

/-- A case mapping keeps a character, or leads where its table says. -/
theorem eq_or_isMapped_of_mem_mapCase {runs : List CaseRun} {specials : List (Nat × List Nat)}
    {c d : Char} (hd : 0 < d.toNat) (h : d ∈ mapCase runs specials c) :
    d = c ∨ isMapped runs specials d = true := by
  -- code points that are no characters would all be mapped to zero
  have hnat {n : Nat} (hn : Char.ofNat n = d) : n = d.toNat := by
    subst hn
    by_cases hvalid : n.isValidChar
    · rw [Char.ofNat, dif_pos hvalid]
      rfl
    · simp [Char.ofNat, hvalid, Char.toNat] at hd
  unfold mapCase at h
  split at h
  · rename_i ns hlookup
    obtain ⟨n, hn, hnd⟩ := List.mem_map.1 h
    obtain ⟨before, after, rfl, -⟩ := List.lookup_eq_some_iff.1 hlookup
    right
    rw [hnat hnd] at hn
    simp [isMapped, hn]
  · split at h
    · rename_i n hfind
      obtain ⟨r, hr, htarget⟩ := List.exists_of_findSome?_eq_some hfind
      have hnd := hnat (List.mem_singleton.1 h).symm
      rw [hnd] at htarget
      have hfrom := CaseRun.eq_of_target? hd htarget
      rw [hfrom] at htarget
      right
      simp only [isMapped, Bool.or_eq_true, List.any_eq_true]
      exact .inr ⟨r, hr, beq_iff_eq.2 htarget⟩
    · exact .inl (List.mem_singleton.1 h)

/-- Whether a character can come from the case mapping of a letter or a number. -/
def isTitleChar (d : Char) : Bool :=
  isAlphanumeric d || isMapped upperRuns upperSpecials d || isMapped lowerRuns lowerSpecials d

theorem isTitleChar_of_mem_upperCase {c d : Char} (hc : isAlphanumeric c = true) (hd : 0 < d.toNat)
    (h : d ∈ upperCase c) : isTitleChar d = true := by
  obtain rfl | hmapped := eq_or_isMapped_of_mem_mapCase hd h
  · simp [isTitleChar, hc]
  · simp [isTitleChar, hmapped]

theorem isTitleChar_of_mem_lowerCase {c d : Char} (hc : isAlphanumeric c = true) (hd : 0 < d.toNat)
    (h : d ∈ lowerCase c) : isTitleChar d = true := by
  obtain rfl | hmapped := eq_or_isMapped_of_mem_mapCase hd h
  · simp [isTitleChar, hc]
  · simp [isTitleChar, hmapped]

theorem isTitleChar_of_mem_lowerTail {cs : List Char} (hcs : ∀ c ∈ cs, isAlphanumeric c = true)
    {d : Char} (hd : 0 < d.toNat) (h : d ∈ lowerTail cs) : isTitleChar d = true := by
  fun_induction lowerTail cs with
  | case1 => cases h
  | case2 =>
    -- the final sigma is a letter itself
    obtain rfl := List.mem_singleton.1 h
    decide +kernel
  | case3 c hsigma => exact isTitleChar_of_mem_lowerCase (hcs c List.mem_cons_self) hd h
  | case4 c cs _ ih =>
    simp only [List.mem_cons, forall_eq_or_imp] at hcs
    obtain hhead | htail := List.mem_append.1 h
    · exact isTitleChar_of_mem_lowerCase hcs.1 hd hhead
    · exact ih hcs.2 htail

theorem isTitleChar_of_mem_capitalize {word : List Char}
    (hword : ∀ c ∈ word, isAlphanumeric c = true) {d : Char} (hd : 0 < d.toNat)
    (h : d ∈ capitalize word) : isTitleChar d = true := by
  cases word with
  | nil => cases h
  | cons c word =>
    simp only [List.mem_cons, forall_eq_or_imp] at hword
    obtain hhead | htail := List.mem_append.1 h
    · exact isTitleChar_of_mem_upperCase hword.1 hd hhead
    · exact isTitleChar_of_mem_lowerTail hword.2 hd htail

/-! ## Words -/

theorem mem_of_mem_cutRun {mode : WordCase} {word run w : List Char} {c : Char}
    (hw : w ∈ cutRun mode word run) (hc : c ∈ w) : c ∈ word ++ run := by
  fun_induction cutRun mode word run with
  | case1 => cases hw
  | case2 mode word d =>
    obtain rfl := List.mem_singleton.1 hw
    exact hc
  | case3 mode word d e rest _ ih =>
    obtain rfl | hrest := List.mem_cons.1 hw
    · grind
    · have := ih hrest
      grind
  | case4 mode word d e rest _ _ ih =>
    obtain rfl | hrest := List.mem_cons.1 hw
    · exact List.mem_append_left _ hc
    · have := ih hrest
      grind
  | case5 mode word d e rest _ _ ih =>
    have := ih hw
    grind

theorem isAlphanumeric_of_mem_titleWords {name word : List Char} (h : word ∈ titleWords name) :
    ∀ c ∈ word, isAlphanumeric c = true := by
  intro c hc
  obtain ⟨run, hrun, hword⟩ := List.mem_flatMap.1 h
  have hmem : c ∈ run := by simpa using mem_of_mem_cutRun hword hc
  simpa using of_mem_splitWhere hrun c hmem

/-! ## Titles -/

/-- **What no case mapping leads to is in no title**, unless it is a letter, a number or a blank. -/
theorem notMem_titleCase {d : Char} (hd : 0 < d.toNat) (hblank : d ≠ ' ')
    (htitle : isTitleChar d = false) (name : String) : d ∉ (titleCase name).toList := by
  rw [titleCase, String.toList_ofList]
  refine notMem_intercalate (by simpa using hblank) fun piece hpiece hmem => ?_
  obtain ⟨word, hword, rfl⟩ := List.mem_map.1 hpiece
  have hchar := isTitleChar_of_mem_capitalize (isAlphanumeric_of_mem_titleWords hword) hd hmem
  rw [htitle] at hchar
  cases hchar

end Uplift.Text
