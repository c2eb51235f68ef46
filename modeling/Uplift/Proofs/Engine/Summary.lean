import Mathlib.Data.List.TakeDrop
import Mathlib.Data.List.TakeWhile
import Uplift.Engine.Summary
import Uplift.Proofs.Duration
import Uplift.Proofs.Text.Numeral

set_option autoImplicit false

/-! # What engines print is what is read

An engine ends its output with a trailer: the word `Results:`, one line for each count, and maybe a
line with the time. `Trailer` is such an end with all that is free in it, the order of the counts and
whether a line break closes the text included, and `Trailer.text` prints it.

Reading the printed text after any other output gives the four counts back (`read_append_text`). The
mark is found because no line of a trailer has a capital `R`. A line of a count adds exactly that
count: its digits are a run of their own, since a line break is before them and a blank behind, and
the word ends where the line ends. The line of the time adds none, as its digits are followed by a
point and by a letter. Since each count stands once in a trailer, their order does not matter. -/

namespace Uplift.Summary

open Text

/-! ## Trailers -/

/-- Seconds as an engine prints them, with digits on both sides of the point. -/
structure Seconds where
  whole : List Char
  fraction : List Char
  isNumeral_whole : isNumeral whole = true
  isNumeral_fraction : isNumeral fraction = true

/-- The digits and the point. -/
def Seconds.numeral (s : Seconds) : List Char := s.whole ++ '.' :: s.fraction

/-- Whether the printed number itself is less than a bound. -/
def Seconds.Below (s : Seconds) (bound : Nat) : Prop :=
  ofDigits (s.whole ++ s.fraction) < bound * Nat.pow 10 s.fraction.length

instance (s : Seconds) (bound : Nat) : Decidable (s.Below bound) :=
  inferInstanceAs (Decidable (_ < _))

/-- The line of a count. -/
def countLine (k : Tally) (n : Nat) : List Char := digits n ++ ' ' :: k.word.toList

/-- What stands before the seconds. -/
def timeLead : List Char := "Time elapsed: ".toList

/-- The unit behind the seconds. -/
def timeUnit : List Char := "seconds".toList

/-- The line of the time. -/
def timeLine (s : Seconds) : List Char := timeLead ++ s.numeral ++ timeUnit

/-- The end of the output of an engine. -/
structure Trailer where
  /-- The order of the counts. -/
  order : List Tally
  count : Tally → Nat
  seconds : Option Seconds
  /-- Whether a line break ends the text. -/
  closed : Bool
  perm : order.Perm Tally.all
  count_lt : ∀ k, count k < UInt64.size

namespace Trailer

/-- The lines of the counts. -/
def countLines (t : Trailer) : List Char :=
  t.order.flatMap fun k => '\n' :: countLine k (t.count k)

/-- The last line break. -/
def closing (t : Trailer) : List Char := if t.closed then ['\n'] else []

/-- What stands behind the counts. -/
def coda (t : Trailer) : List Char :=
  match t.seconds with
  | some s => '\n' :: timeLine s ++ t.closing
  | none => t.closing

/-- What stands behind the mark. -/
def body (t : Trailer) : List Char := t.countLines ++ t.coda

/-- A trailer as it is printed. -/
def text (t : Trailer) : String := String.ofList ("Results:".toList ++ t.body)

/-- The counts of a trailer as a report. -/
def report (t : Trailer) (elapsed : Duration) : Report where
  ok := t.count .ok
  nochange := t.count .unmodified
  skip := t.count .skipped
  error := t.count .errors
  elapsed := elapsed

end Trailer

/-! ## The mark -/

theorem afterLast?_eq_none_iff {mark cs : List Char} :
    afterLast? mark cs = none ↔ ¬ mark <:+: cs := by
  induction cs with
  | nil => simp [afterLast?, dropPrefix?_eq_none_iff]
  | cons c cs ih =>
    rw [afterLast?, Option.or_eq_none_iff, ih, dropPrefix?_eq_none_iff, List.infix_cons_iff, not_or,
      and_comm]

/-- The last mark of a text is the one behind which no other starts. -/
theorem afterLast?_append (m : Char) (mark cs before : List Char)
    (h : ¬ m :: mark <:+: mark ++ cs) :
    afterLast? (m :: mark) (before ++ (m :: mark ++ cs)) = some cs := by
  induction before with
  | nil =>
    have hlast := afterLast?_eq_none_iff.2 h
    have hhere := dropPrefix?_append (m :: mark) cs
    simp only [List.nil_append, List.cons_append, afterLast?, hlast, Option.none_or] at hhere ⊢
    exact hhere
  | cons c before ih => rw [List.cons_append, afterLast?, ih, Option.some_or]

/-! ## Runs of digits -/

theorem span_run {p : Char → Bool} {run : List Char} (hrun : ∀ c ∈ run, p c = true) {c : Char}
    (hc : p c = false) (cs : List Char) :
    (run ++ c :: cs).takeWhile p = run ∧ (run ++ c :: cs).dropWhile p = c :: cs := by
  have hstop : ¬ p c = true := by simp [hc]
  constructor
  · rw [List.takeWhile_append_of_pos hrun, List.takeWhile_cons_of_neg hstop, List.append_nil]
  · rw [List.dropWhile_append_of_pos hrun, List.dropWhile_cons_of_neg hstop]

theorem isScriptDigit_of_isDigit {c : Char} (h : c.isDigit = true) : isScriptDigit c = true := by
  have hc := toNat_of_isDigit h
  simp [isScriptDigit, inRanges, digitRanges, hc]

theorem isScriptDigit_of_isNumeral {cs : List Char} (h : isNumeral cs = true) :
    cs ≠ [] ∧ ∀ c ∈ cs, isScriptDigit c = true := by
  obtain ⟨hne, hdigits⟩ := isNumeral_iff.1 h
  exact ⟨hne, fun c hc => isScriptDigit_of_isDigit (hdigits c hc)⟩

/-- Whether a text has no digits. -/
def isDigitless (text : List Char) : Bool := text.all fun c => !isScriptDigit c

theorem countsFrom_append {text : List Char} (h : isDigitless text = true) (cs : List Char) :
    countsFrom false (text ++ cs) = countsFrom false cs := by
  induction text with
  | nil => rfl
  | cons c text ih =>
    simp only [isDigitless, List.all_cons, Bool.and_eq_true, Bool.not_eq_true'] at h
    simp [countsFrom, h.1, ih h.2]

/-- Inside a run of digits no count starts. -/
theorem countsFrom_within {run : List Char} (h : ∀ c ∈ run, isScriptDigit c = true)
    (cs : List Char) : countsFrom true (run ++ cs) = countsFrom true cs := by
  induction run with
  | nil => rfl
  | cons c run ih =>
    simp only [List.mem_cons, forall_eq_or_imp] at h
    simp [countsFrom, h.1, ih h.2]

/-- A run of digits adds at most the count that starts with it. -/
theorem countsFrom_run {run : List Char} (hne : run ≠ [])
    (hrun : ∀ c ∈ run, isScriptDigit c = true) {c : Char} (hc : isScriptDigit c = false)
    (cs : List Char) :
    countsFrom false (run ++ c :: cs) =
      (countAt? (run ++ c :: cs)).toList ++ countsFrom false cs := by
  cases run with
  | nil => exact absurd rfl hne
  | cons d run =>
    simp only [List.mem_cons, forall_eq_or_imp] at hrun
    have hrest : countsFrom true (run ++ c :: cs) = countsFrom false cs := by
      rw [countsFrom_within hrun.2]
      simp [countsFrom, hc]
    simp only [List.cons_append, countsFrom, hrun.1, hrest, Bool.not_false, Bool.and_self, if_true]
    cases countAt? (d :: (run ++ c :: cs)) <;> rfl

/-- The count of a run of digits is decided by what follows it. -/
theorem countAt?_run {run : List Char} (hrun : ∀ c ∈ run, isScriptDigit c = true) {c : Char}
    (hc : isScriptDigit c = false) (cs : List Char) :
    countAt? (run ++ c :: cs) =
      if isBlank c then (tallyAt? ((c :: cs).dropWhile isBlank)).map fun k => (k, countOf run)
      else none := by
  obtain ⟨htake, hdrop⟩ := span_run hrun hc cs
  simp only [countAt?, htake, hdrop]

/-- Digits that stand before anything but a blank are no count. -/
theorem countsFrom_idle {run : List Char} (hrun : isNumeral run = true) {c : Char}
    (hc : isScriptDigit c = false) (hblank : isBlank c = false) (cs : List Char) :
    countsFrom false (run ++ c :: cs) = countsFrom false cs := by
  obtain ⟨hne, hdigits⟩ := isScriptDigit_of_isNumeral hrun
  rw [countsFrom_run hne hdigits hc, countAt?_run hdigits hc, hblank]
  rfl

/-! ## Lines -/

theorem countOf_digits {n : Nat} (h : n < UInt64.size) : countOf (digits n) = n := by
  have hword : (UInt64.ofNat n).toNat = n := UInt64.toNat_ofNat_of_lt' h
  simp [countOf, word64Of?, natOf?, isNumeral_digits, h, hword]

theorem isDigitless_word (k : Tally) : isDigitless k.word.toList = true := by
  cases k <;> decide

theorem isUpper_of_mem_word {k : Tally} {c : Char} (h : c ∈ k.word.toList) : c.isUpper = false := by
  have hall : (k.word.toList.all fun c => !c.isUpper) = true := by
    cases k <;> decide
  simpa using List.all_eq_true.1 hall c h

theorem atWordEnd_lineBreak (cs : List Char) : atWordEnd ('\n' :: cs) = true := by
  show (!isWordChar '\n') = true
  decide +kernel

theorem tallyAt?_word (k : Tally) {rest : List Char} (h : atWordEnd rest = true) :
    tallyAt? (k.word.toList ++ rest) = some k := by
  cases k <;> simp [tallyAt?, Tally.all, Tally.word, dropPrefix?, h]

theorem counts_countLine (k : Tally) {n : Nat} (hn : n < UInt64.size) {rest : List Char}
    (hrest : atWordEnd rest = true) :
    counts ('\n' :: countLine k n ++ rest) = (k, n) :: counts rest := by
  obtain ⟨hne, hdigits⟩ := isScriptDigit_of_isNumeral (isNumeral_digits n)
  have hspace : isScriptDigit ' ' = false := by decide
  have hdrop : (' ' :: (k.word.toList ++ rest)).dropWhile isBlank = k.word.toList ++ rest := by
    cases k <;> rfl
  have hcount : countAt? (digits n ++ ' ' :: (k.word.toList ++ rest)) = some (k, n) := by
    rw [countAt?_run hdigits hspace, hdrop, tallyAt?_word k hrest, countOf_digits hn]
    rfl
  calc counts ('\n' :: countLine k n ++ rest)
      = countsFrom false (digits n ++ ' ' :: (k.word.toList ++ rest)) := by
        rw [counts, List.cons_append, ← List.singleton_append,
          countsFrom_append (by decide), countLine, List.append_assoc, List.cons_append]
    _ = (k, n) :: counts rest := by
        rw [countsFrom_run hne hdigits hspace, hcount, countsFrom_append (isDigitless_word k)]
        rfl

/-- The digits of the seconds stand between a lead, a point and a unit. -/
theorem timeLine_append (s : Seconds) (rest : List Char) :
    timeLine s ++ rest =
      timeLead ++ (s.whole ++ '.' :: (s.fraction ++ 's' :: (timeUnit.tail ++ rest))) := by
  have hunit : timeUnit ++ rest = 's' :: (timeUnit.tail ++ rest) := rfl
  rw [← hunit]
  simp only [timeLine, Seconds.numeral, List.append_assoc, List.cons_append]

theorem counts_timeLine (s : Seconds) (rest : List Char) :
    counts ('\n' :: timeLine s ++ rest) = counts rest := by
  have hlead : isDigitless ('\n' :: timeLead) = true := by decide
  have hunit : isDigitless timeUnit.tail = true := by decide
  rw [counts, List.cons_append, timeLine_append, ← List.cons_append, countsFrom_append hlead,
    countsFrom_idle s.isNumeral_whole (by decide) (by decide),
    countsFrom_idle s.isNumeral_fraction (by decide) (by decide), countsFrom_append hunit, counts]

/-! ## The time -/

theorem timeMark_eq : "Time elapsed:".toList = 'T' :: "ime elapsed:".toList := rfl

theorem time?_append {text : List Char} (h : 'T' ∉ text) (cs : List Char) :
    time? (text ++ cs) = time? cs := by
  induction text with
  | nil => rfl
  | cons c text ih =>
    simp only [List.mem_cons, not_or] at h
    have hnone : timeAt? (c :: (text ++ cs)) = none := by
      rw [timeAt?, timeMark_eq, dropPrefix?_of_ne h.1, Option.bind_none]
    rw [List.cons_append, time?, hnone, Option.none_or, ih h.2]

theorem isBlank_of_isDigit {c : Char} (h : c.isDigit = true) : isBlank c = false := by
  have hc := toNat_of_isDigit h
  simp only [isBlank, Bool.or_eq_false_iff, Bool.and_eq_false_iff, decide_eq_false_iff_not,
    beq_eq_false_iff_ne]
  omega

theorem numeralAt?_append (s : Seconds) {c : Char} (hc : c.isDigit = false) (cs : List Char) :
    numeralAt? (s.whole ++ '.' :: (s.fraction ++ c :: cs)) = some s.numeral := by
  obtain ⟨hwhole, hwholeDigits⟩ := isNumeral_iff.1 s.isNumeral_whole
  obtain ⟨hfraction, hfractionDigits⟩ := isNumeral_iff.1 s.isNumeral_fraction
  obtain ⟨htake, hdrop⟩ := span_run hwholeDigits (c := '.') (by decide) (s.fraction ++ c :: cs)
  have htakeFraction := (span_run hfractionDigits hc cs).1
  simp [numeralAt?, htake, hdrop, htakeFraction, hwhole, hfraction, Seconds.numeral]

theorem time?_timeLine (s : Seconds) (rest : List Char) :
    time? (timeLine s ++ rest) = some s.numeral := by
  have hblank (cs : List Char) : trimLeft (' ' :: (s.whole ++ cs)) = s.whole ++ cs := by
    obtain ⟨hne, hdigits⟩ := isNumeral_iff.1 s.isNumeral_whole
    obtain ⟨c, whole, hwhole⟩ := List.exists_cons_of_ne_nil hne
    have hc : isBlank c = false := isBlank_of_isDigit (hdigits c (by simp [hwhole]))
    have hspace : isBlank ' ' = true := by decide
    simp [trimLeft, hwhole, hc, hspace]
  have hlead (cs : List Char) :
      dropPrefix? "Time elapsed:".toList (timeLead ++ cs) = some (' ' :: cs) :=
    dropPrefix?_append "Time elapsed:".toList (' ' :: cs)
  have hhere : timeAt? (timeLine s ++ rest) = some s.numeral := by
    rw [timeAt?, timeLine_append, hlead, Option.bind_some, hblank, numeralAt?_append s (by decide)]
  have hcons : timeLine s ++ rest = 'T' :: ((timeLine s).tail ++ rest) := rfl
  rw [hcons] at hhere ⊢
  rw [time?, hhere, Option.some_or]

theorem read?_of_isDigit {c : Char} (h : c.isDigit = true) (cs : List Char) :
    Double.read? (c :: cs) = Double.readAbs? false (c :: cs) := by
  have hc := toNat_of_isDigit h
  unfold Double.read?
  split
  · rename_i hsign
    obtain ⟨rfl, -⟩ := List.cons.inj hsign
    exact absurd hc (by decide)
  · rename_i hsign
    obtain ⟨rfl, -⟩ := List.cons.inj hsign
    exact absurd hc (by decide)
  · rfl

theorem read?_numeral (s : Seconds) :
    Double.read? s.numeral =
      Double.ofDecimal? false (ofDigits (s.whole ++ s.fraction)) (-(s.fraction.length : Int)) := by
  obtain ⟨hwhole, hwholeDigits⟩ := isNumeral_iff.1 s.isNumeral_whole
  obtain ⟨-, hfractionDigits⟩ := isNumeral_iff.1 s.isNumeral_fraction
  have habs : Double.read? s.numeral = Double.readAbs? false s.numeral := by
    obtain ⟨c, whole, hcons⟩ := List.exists_cons_of_ne_nil hwhole
    rw [Seconds.numeral, hcons, List.cons_append]
    exact read?_of_isDigit (hwholeDigits c (by simp [hcons])) _
  obtain ⟨htake, hdrop⟩ := span_run hwholeDigits (c := '.') (by decide) s.fraction
  have htakeFraction : s.fraction.takeWhile Char.isDigit = s.fraction :=
    List.takeWhile_eq_self_iff.2 hfractionDigits
  have hdropFraction : s.fraction.dropWhile Char.isDigit = [] :=
    List.dropWhile_eq_nil_iff.2 hfractionDigits
  rw [habs, Seconds.numeral, Double.readAbs?]
  simp [List.span_eq_takeWhile_dropWhile, htake, hdrop, htakeFraction, hdropFraction,
    Double.readExponent?, hwhole]

/-- Seconds that are printed below the half before `2 ^ 64` have a duration. -/
theorem exists_durationOf {s : Seconds} (h : s.Below Duration.decimalLimit) :
    ∃ d, durationOf s.numeral = some d := by
  have hwords : s.Below UInt64.size :=
    Nat.lt_of_lt_of_le h (Nat.mul_le_mul_right _ (Nat.sub_le _ _))
  obtain ⟨seconds, hread⟩ := Double.exists_ofDecimal? false hwords
  rw [durationOf, read?_numeral, hread]
  apply Option.ne_none_iff_exists'.1
  intro hnone
  exact Nat.not_le.2 h ((Duration.ofSeconds?_ofDecimal? hread).1 hnone)

/-- From the half on, seconds are rounded up to `2 ^ 64`, which is no duration. -/
theorem durationOf_eq_none {s : Seconds} (h : s.Below UInt64.size)
    (hhalf : ¬ s.Below Duration.decimalLimit) : durationOf s.numeral = none := by
  obtain ⟨seconds, hread⟩ := Double.exists_ofDecimal? false h
  rw [durationOf, read?_numeral, hread]
  exact (Duration.ofSeconds?_ofDecimal? hread).2 (Nat.not_lt.1 hhalf)

/-! ## Counts in a report -/

/-- The count of a report for a word. -/
def countIn (r : Report) : Tally → Nat
  | .ok => r.ok
  | .unmodified => r.nochange
  | .skipped => r.skip
  | .errors => r.error

theorem countIn_setCount (r : Report) (k j : Tally) (n : Nat) :
    countIn (setCount r (k, n)) j = if j = k then n else countIn r j := by
  cases k <;> cases j <;> rfl

theorem countIn_foldl (count : Tally → Nat) (order : List Tally) (r : Report) (j : Tally) :
    countIn ((order.map fun k => (k, count k)).foldl setCount r) j =
      if j ∈ order then count j else countIn r j := by
  induction order generalizing r with
  | nil => simp
  | cons k order ih =>
    rw [List.map_cons, List.foldl_cons, ih, countIn_setCount]
    by_cases hjk : j = k
    · simp [hjk]
    · simp [hjk]

namespace Trailer

theorem mem_order (t : Trailer) (k : Tally) : k ∈ t.order := by
  rw [t.perm.mem_iff]
  cases k <;> decide

theorem foldl_setCount (t : Trailer) (elapsed : Duration) :
    { (t.order.map fun k => (k, t.count k)).foldl setCount {} with elapsed } = t.report elapsed := by
  have hcount (k : Tally) :
      countIn ((t.order.map fun k => (k, t.count k)).foldl setCount {}) k = t.count k := by
    rw [countIn_foldl, if_pos (t.mem_order k)]
  have hok := hcount .ok
  have hunmodified := hcount .unmodified
  have hskipped := hcount .skipped
  have herrors := hcount .errors
  simp only [countIn] at hok hunmodified hskipped herrors
  simp only [report, hok, hunmodified, hskipped, herrors]

/-! ## Reading trailers -/

theorem closing_eq (t : Trailer) : t.closing = [] ∨ t.closing = ['\n'] := by
  cases hclosed : t.closed
  · exact .inl (by simp [closing, hclosed])
  · exact .inr (by simp [closing, hclosed])

theorem atWordEnd_coda (t : Trailer) : atWordEnd t.coda = true := by
  unfold coda
  split
  · exact atWordEnd_lineBreak _
  · obtain h | h := t.closing_eq
    · rw [h]
      rfl
    · rw [h]
      exact atWordEnd_lineBreak []

theorem counts_coda (t : Trailer) : counts t.coda = [] := by
  have hclosing : counts t.closing = [] := by
    obtain h | h := t.closing_eq <;> rw [h] <;> decide
  unfold coda
  split
  · rw [counts_timeLine, hclosing]
  · exact hclosing

theorem time?_coda (t : Trailer) : time? t.coda = t.seconds.map Seconds.numeral := by
  unfold coda
  split
  · rename_i s hseconds
    rw [hseconds, List.cons_append, ← List.singleton_append, time?_append (by decide), time?_timeLine]
    rfl
  · rename_i hseconds
    rw [hseconds]
    obtain h | h := t.closing_eq <;> rw [h] <;> decide

/-- Lines of counts are read line by line, and what follows them is read on. -/
theorem counts_countLines (count : Tally → Nat) (hcount : ∀ k, count k < UInt64.size)
    (order : List Tally) {rest : List Char} (hrest : atWordEnd rest = true) :
    counts ((order.flatMap fun k => '\n' :: countLine k (count k)) ++ rest) =
      (order.map fun k => (k, count k)) ++ counts rest := by
  induction order with
  | nil => rfl
  | cons k order ih =>
    -- a word ends where the next line or the rest starts
    have hend : atWordEnd ((order.flatMap fun k => '\n' :: countLine k (count k)) ++ rest) = true := by
      cases order with
      | nil => exact hrest
      | cons j order => exact atWordEnd_lineBreak _
    rw [List.flatMap_cons, List.append_assoc, counts_countLine k (hcount k) hend, ih]
    rfl

theorem counts_body (t : Trailer) : counts t.body = t.order.map fun k => (k, t.count k) := by
  rw [body, countLines, counts_countLines t.count t.count_lt t.order t.atWordEnd_coda, t.counts_coda,
    List.append_nil]

theorem notMem_countLines (t : Trailer) {c : Char} (hc : c.isUpper = true) : c ∉ t.countLines := by
  intro hmem
  obtain ⟨k, -, hline⟩ := List.mem_flatMap.1 hmem
  rw [countLine, List.mem_cons, List.mem_append, List.mem_cons] at hline
  obtain rfl | hdigit | rfl | hword := hline
  · exact absurd hc (by decide)
  · have hdigit := toNat_of_isDigit (isDigit_of_mem_digits hdigit)
    have hupper : 'A'.val ≤ c.val := (of_decide_eq_true hc).1
    exact absurd (Nat.le_trans (UInt32.le_iff_toNat_le.1 hupper) hdigit.2) (by decide)
  · exact absurd hc (by decide)
  · rw [isUpper_of_mem_word hword] at hc
    cases hc

theorem notMem_timeLine (s : Seconds) : 'R' ∉ timeLine s := by
  have hnumeral {cs : List Char} (h : isNumeral cs = true) : 'R' ∉ cs := by
    intro hmem
    exact absurd ((isNumeral_iff.1 h).2 'R' hmem) (by decide)
  intro hmem
  simp only [timeLine, Seconds.numeral, List.mem_append, List.mem_cons] at hmem
  obtain (hlead | hwhole | hpoint | hfraction) | hunit := hmem
  · exact absurd hlead (by decide)
  · exact hnumeral s.isNumeral_whole hwhole
  · exact absurd hpoint (by decide)
  · exact hnumeral s.isNumeral_fraction hfraction
  · exact absurd hunit (by decide)

theorem notMem_coda (t : Trailer) : 'R' ∉ t.coda := by
  have hclosing : 'R' ∉ t.closing := by
    obtain h | h := t.closing_eq <;> rw [h] <;> decide
  unfold coda
  split
  · rw [List.mem_append, List.mem_cons, not_or, not_or]
    exact ⟨⟨by decide, notMem_timeLine _⟩, hclosing⟩
  · exact hclosing

/-- The mark is not printed again behind it. -/
theorem mark_not_infix (t : Trailer) : ¬ 'R' :: "esults:".toList <:+: "esults:".toList ++ t.body := by
  intro hinfix
  have hmem : 'R' ∈ "esults:".toList ++ t.body := hinfix.subset List.mem_cons_self
  rw [body, List.mem_append, List.mem_append] at hmem
  obtain hmark | hlines | hcoda := hmem
  · exact absurd hmark (by decide)
  · exact t.notMem_countLines (by decide) hlines
  · exact t.notMem_coda hcoda

theorem afterLast?_text (before : String) (t : Trailer) :
    afterLast? "Results:".toList (before ++ t.text).toList = some t.body := by
  have htext : (before ++ t.text).toList = before.toList ++ ('R' :: "esults:".toList ++ t.body) :=
    String.toList_append.trans (congrArg (before.toList ++ ·) String.toList_ofList)
  rw [htext]
  exact afterLast?_append 'R' "esults:".toList t.body before.toList t.mark_not_infix

theorem time?_body (t : Trailer) : time? t.body = t.seconds.map Seconds.numeral := by
  rw [body, time?_append (t.notMem_countLines (by decide)), t.time?_coda]

/-- After any other output, a trailer is read as the counts and the time that it prints. -/
theorem read_append_text (before : String) (t : Trailer) :
    read (before ++ t.text) =
      match (t.seconds.map fun s => durationOf s.numeral).getD (some .zero) with
      | none => .overflow
      | some elapsed => .report (t.report elapsed) := by
  rw [read, t.afterLast?_text before]
  simp only [t.time?_body, t.counts_body, t.foldl_setCount, Option.map_map]
  rfl

end Trailer

theorem read_eq_missing_iff (output : String) :
    read output = .missing ↔ ¬ "Results:".toList <:+: output.toList := by
  rw [← afterLast?_eq_none_iff, read]
  cases afterLast? "Results:".toList output.toList with
  | none => simp
  | some cs =>
    simp only [reduceCtorEq, iff_false]
    split <;> simp

/-- Reading inverts the printing of trailers. After any other output, which may have earlier trailers
    in it, a trailer is read as a report with its four counts, as long as its time, if it has one, is
    printed below the half before `2 ^ 64` seconds; from there on the time overflows, though it is
    printed below `2 ^ 64`. There is nothing to read exactly where the mark is missing. -/
theorem read_inverts_trailer (before : String) (t : Trailer) (output : String) :
    (t.seconds = none → read (before ++ t.text) = .report (t.report .zero)) ∧
    (∀ s, t.seconds = some s → s.Below UInt64.size →
      (s.Below Duration.decimalLimit → ∃ elapsed, durationOf s.numeral = some elapsed ∧
        read (before ++ t.text) = .report (t.report elapsed)) ∧
      (¬ s.Below Duration.decimalLimit → read (before ++ t.text) = .overflow)) ∧
    (read output = .missing ↔ ¬ "Results:".toList <:+: output.toList) := by
  rw [t.read_append_text before]
  refine ⟨?_, ?_, read_eq_missing_iff output⟩
  · intro hnone
    rw [hnone]
    rfl
  · intro s hsome hwords
    rw [hsome]
    constructor
    · intro hbelow
      obtain ⟨elapsed, helapsed⟩ := exists_durationOf hbelow
      exact ⟨elapsed, helapsed, by simp [helapsed]⟩
    · intro hhalf
      simp [durationOf_eq_none hwords hhalf]

/-- A trailer with four counts in the order of engines, and maybe a time. -/
def sample (seconds : Option Seconds) : Trailer where
  order := [.errors, .unmodified, .skipped, .ok]
  count
    | .errors => 1
    | .unmodified => 2
    | .skipped => 3
    | .ok => 4
  seconds := seconds
  closed := true
  perm := by decide
  count_lt := by
    intro k
    cases k <;> decide

/-- Half a second and a bit. -/
def halfSecond : Seconds := ⟨"0".toList, "512".toList, by decide, by decide⟩

/-- The last whole second below `2 ^ 64`. -/
def lastSecond : Seconds := ⟨"18446744073709551615".toList, "0".toList, by decide, by decide⟩

theorem read_inverts_trailer_samples :
    read ("Results:\n9 ok\n" ++ (sample none).text) =
      .report { ok := 4, nochange := 2, skip := 3, error := 1 } ∧
    (∃ elapsed, durationOf "0.512".toList = some elapsed ∧
      read ("Results:\n9 ok\n" ++ (sample (some halfSecond)).text) =
        .report { ok := 4, nochange := 2, skip := 3, error := 1, elapsed }) ∧
    read ("Results:\n9 ok\n" ++ (sample (some lastSecond)).text) = .overflow :=
  ⟨(read_inverts_trailer _ (sample none) "").1 rfl,
    ((read_inverts_trailer _ (sample (some halfSecond)) "").2.1 halfSecond rfl (by decide)).1
      (by decide),
    ((read_inverts_trailer _ (sample (some lastSecond)) "").2.1 lastSecond rfl (by decide)).2
      (by decide)⟩

/-- The last whole second below `2 ^ 64` is printed like any other time, but no report is read from
    it. -/
theorem read_trailer_of_lastSecond :
    lastSecond.Below UInt64.size ∧
    (sample (some lastSecond)).text = "Results:\n1 errors\n2 unmodified\n3 skipped\n4 ok\n" ++
      "Time elapsed: 18446744073709551615.0seconds\n" ∧
    ∀ r, read (sample (some lastSecond)).text ≠ .report r := by
  have hread : read (sample (some lastSecond)).text = .overflow := by decide +kernel
  refine ⟨by decide, by decide +kernel, ?_⟩
  intro r
  rw [hread]
  simp

end Uplift.Summary
