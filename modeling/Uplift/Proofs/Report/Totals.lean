import Uplift.Report

set_option autoImplicit false

/-! # Totals of a run

The totals add up the reports of a run one by one, in 64 bits. What one step can do is the same for all
counts (`Totals.eq_of_add?`, `Totals.exists_add?_iff`), so that it is said once for any `Counter`. Over a
whole run, each count is the sum modulo `2 ^ 64` (`Totals.eq_of_ofReports?`). A build that checks its sums
has totals only if they fit, and no build has them if the durations do not
(`Totals.exists_ofReports?_iff`). -/

namespace Uplift

/-! ## Counts -/

theorem Overflow.eq_of_add? {o : Overflow} {m n k : Nat} (h : o.add? m n = some k) :
    k = (m + n) % UInt64.size ∧ (o = .abort → m + n < UInt64.size) := by
  unfold add? at h
  split at h
  · rename_i hfits
    obtain rfl := Option.some.inj h
    exact ⟨(Nat.mod_eq_of_lt hfits).symm, fun _ => hfits⟩
  · cases o with
    | abort => cases h
    | wrap => exact ⟨(Option.some.inj h).symm, fun ho => nomatch ho⟩

/-- A sum of counts is there, unless it is checked and too high. -/
theorem Overflow.exists_add?_iff {o : Overflow} {m n : Nat} :
    (∃ k, o.add? m n = some k) ↔ (o = .abort → m + n < UInt64.size) := by
  constructor
  · rintro ⟨k, h⟩
    exact (eq_of_add? h).2
  · intro h
    by_cases hfits : m + n < UInt64.size
    · exact ⟨m + n, if_pos hfits⟩
    · cases o with
      | abort => exact absurd (h rfl) hfits
      | wrap => exact ⟨(m + n) % UInt64.size, if_neg hfits⟩

/-- What is counted in the reports of a run. -/
inductive Counter where
  | codemods
  | ok
  | nochange
  | skip
  | error
  deriving DecidableEq

namespace Counter

/-- What a report adds to a count. -/
def ofReport : Counter → Report → Nat
  | .codemods, _ => 1
  | .ok, r => r.ok
  | .nochange, r => r.nochange
  | .skip, r => r.skip
  | .error, r => r.error

/-- The count in the totals. -/
def ofTotals : Counter → Totals → Nat
  | .codemods, t => t.codemods
  | .ok, t => t.ok
  | .nochange, t => t.nochange
  | .skip, t => t.skip
  | .error, t => t.error

/-- The sum over all reports. -/
def sum (k : Counter) (reports : List CodemodReport) : Nat :=
  reports.foldr (fun r n => k.ofReport r.report + n) 0

theorem sum_cons (k : Counter) (r : CodemodReport) (reports : List CodemodReport) :
    k.sum (r :: reports) = k.ofReport r.report + k.sum reports := rfl

end Counter

/-- The sums of all counts fit into 64 bits. -/
def CountsFit (reports : List CodemodReport) : Prop := ∀ k : Counter, k.sum reports < UInt64.size

/-- The time that codemods took together, in nanoseconds. -/
def elapsedNanos (reports : List CodemodReport) : Nat :=
  reports.foldr (fun r n => r.report.elapsed.nanos + n) 0

theorem elapsedNanos_cons (r : CodemodReport) (reports : List CodemodReport) :
    elapsedNanos (r :: reports) = r.report.elapsed.nanos + elapsedNanos reports := rfl

namespace Totals

variable {o : Overflow}

/-- A report is added count by count. -/
theorem add?_eq_some_iff {t t' : Totals} {r : Report} : add? o t r = some t' ↔
    (∀ k : Counter, o.add? (k.ofTotals t) (k.ofReport r) = some (k.ofTotals t')) ∧
      t.elapsed.add? r.elapsed = some t'.elapsed := by
  constructor
  · intro h
    simp only [add?, Option.bind_eq_bind, Option.bind_eq_some_iff] at h
    obtain ⟨codemods, hcodemods, ok, hok, nochange, hnochange, skip, hskip, error, herror, elapsed,
      helapsed, h⟩ := h
    obtain rfl := Option.some.inj h
    refine ⟨fun k => ?_, helapsed⟩
    cases k with
    | codemods => exact hcodemods
    | ok => exact hok
    | nochange => exact hnochange
    | skip => exact hskip
    | error => exact herror
  · rintro ⟨hcounts, helapsed⟩
    have hcodemods : o.add? t.codemods 1 = some t'.codemods := hcounts .codemods
    have hok : o.add? t.ok r.ok = some t'.ok := hcounts .ok
    have hnochange : o.add? t.nochange r.nochange = some t'.nochange := hcounts .nochange
    have hskip : o.add? t.skip r.skip = some t'.skip := hcounts .skip
    have herror : o.add? t.error r.error = some t'.error := hcounts .error
    simp [add?, hcodemods, hok, hnochange, hskip, herror, helapsed]

theorem eq_of_add? {t t' : Totals} {r : Report} (h : add? o t r = some t') :
    (∀ k : Counter, k.ofTotals t' = (k.ofTotals t + k.ofReport r) % UInt64.size ∧
      (o = .abort → k.ofTotals t + k.ofReport r < UInt64.size)) ∧
    t'.elapsed.nanos = t.elapsed.nanos + r.elapsed.nanos := by
  obtain ⟨hcounts, helapsed⟩ := add?_eq_some_iff.1 h
  refine ⟨fun k => Overflow.eq_of_add? (hcounts k), ?_⟩
  unfold Duration.add? Duration.ofNanos? at helapsed
  split at helapsed
  · rw [← Option.some.inj helapsed]
  · cases helapsed

/-- A checked count is the sum itself. -/
theorem ofTotals_of_add? {t t' : Totals} {r : Report} (h : add? o t r = some t') (ho : o = .abort)
    (k : Counter) : k.ofTotals t' = k.ofTotals t + k.ofReport r := by
  obtain ⟨hcount, hchecked⟩ := (eq_of_add? h).1 k
  rw [hcount, Nat.mod_eq_of_lt (hchecked ho)]

/-- A report can be added exactly if the durations stay in range, and the counts too where they are
    checked. -/
theorem exists_add?_iff {t : Totals} {r : Report} : (∃ t', add? o t r = some t') ↔
    t.elapsed.nanos + r.elapsed.nanos < durationLimit ∧
      (o = .abort → ∀ k : Counter, k.ofTotals t + k.ofReport r < UInt64.size) := by
  constructor
  · rintro ⟨t', h⟩
    obtain ⟨hcounts, helapsed⟩ := eq_of_add? h
    rw [← helapsed]
    exact ⟨t'.elapsed.bounded, fun ho k => (hcounts k).2 ho⟩
  · rintro ⟨hlimit, hcounts⟩
    have hcount : ∀ k : Counter, ∃ n, o.add? (k.ofTotals t) (k.ofReport r) = some n :=
      fun k => Overflow.exists_add?_iff.2 fun ho => hcounts ho k
    obtain ⟨codemods, hcodemods⟩ := hcount .codemods
    obtain ⟨ok, hok⟩ := hcount .ok
    obtain ⟨nochange, hnochange⟩ := hcount .nochange
    obtain ⟨skip, hskip⟩ := hcount .skip
    obtain ⟨error, herror⟩ := hcount .error
    refine ⟨⟨codemods, ok, nochange, skip, error, ⟨_, hlimit⟩⟩, add?_eq_some_iff.2 ⟨fun k => ?_, ?_⟩⟩
    · cases k <;> assumption
    · exact dif_pos hlimit

/-! ## Many reports -/

/-- Totals have counts of 64 bits. -/
def Fits (t : Totals) : Prop := ∀ k : Counter, k.ofTotals t < UInt64.size

theorem fits_of_add? {t t' : Totals} {r : Report} (h : add? o t r = some t') : t'.Fits := by
  intro k
  rw [((eq_of_add? h).1 k).1]
  exact Nat.mod_lt _ (by decide)

theorem eq_of_foldlM {reports : List CodemodReport} {t t' : Totals} (ht : t.Fits)
    (h : reports.foldlM (fun t r => add? o t r.report) t = some t') :
    (∀ k : Counter, k.ofTotals t' = (k.ofTotals t + k.sum reports) % UInt64.size) ∧
      t'.elapsed.nanos = t.elapsed.nanos + elapsedNanos reports := by
  induction reports generalizing t with
  | nil =>
    obtain rfl := Option.some.inj h
    exact ⟨fun k => (Nat.mod_eq_of_lt (ht k)).symm, rfl⟩
  | cons r reports ih =>
    rw [List.foldlM_cons] at h
    obtain ⟨t₁, hadd, hrest⟩ := Option.bind_eq_some_iff.1 h
    obtain ⟨hcounts, helapsed⟩ := eq_of_add? hadd
    obtain ⟨hsums, hnanos⟩ := ih (fits_of_add? hadd) hrest
    refine ⟨fun k => ?_, ?_⟩
    · rw [hsums k, (hcounts k).1, Nat.mod_add_mod, Counter.sum_cons, Nat.add_assoc]
    · rw [hnanos, helapsed, elapsedNanos_cons, Nat.add_assoc]

theorem exists_foldlM_iff {reports : List CodemodReport} {t : Totals} (ht : t.Fits) :
    (∃ t', reports.foldlM (fun t r => add? o t r.report) t = some t') ↔
      t.elapsed.nanos + elapsedNanos reports < durationLimit ∧
        (o = .abort → ∀ k : Counter, k.ofTotals t + k.sum reports < UInt64.size) := by
  induction reports generalizing t with
  | nil => exact ⟨fun _ => ⟨t.elapsed.bounded, fun _ => ht⟩, fun _ => ⟨t, rfl⟩⟩
  | cons r reports ih =>
    rw [List.foldlM_cons, elapsedNanos_cons]
    simp only [Counter.sum_cons]
    constructor
    · rintro ⟨t', h⟩
      obtain ⟨t₁, hadd, hrest⟩ := Option.bind_eq_some_iff.1 h
      obtain ⟨hlimit, hfit⟩ := (ih (fits_of_add? hadd)).1 ⟨t', hrest⟩
      rw [(eq_of_add? hadd).2, Nat.add_assoc] at hlimit
      refine ⟨hlimit, fun ho k => ?_⟩
      rw [← Nat.add_assoc, ← ofTotals_of_add? hadd ho]
      exact hfit ho k
    · rintro ⟨hlimit, hfit⟩
      have hfirst (ho : o = .abort) (k : Counter) :
          k.ofTotals t + k.ofReport r.report < UInt64.size := by
        have hsum := hfit ho k
        omega
      obtain ⟨t₁, hadd⟩ := exists_add?_iff.2
        ⟨(by omega : t.elapsed.nanos + r.report.elapsed.nanos < durationLimit), hfirst⟩
      have hrest : t₁.elapsed.nanos + elapsedNanos reports < durationLimit := by
        rw [(eq_of_add? hadd).2]
        omega
      obtain ⟨t', hfold⟩ := (ih (fits_of_add? hadd)).2 ⟨hrest, fun ho k => by
        rw [ofTotals_of_add? hadd ho, Nat.add_assoc]
        exact hfit ho k⟩
      exact ⟨t', Option.bind_eq_some_iff.2 ⟨t₁, hadd, hfold⟩⟩

variable {reports : List CodemodReport} {totals : Totals}

theorem ofTotals_nothing (k : Counter) : k.ofTotals {} = 0 := by
  cases k <;> rfl

theorem fits_nothing : ({} : Totals).Fits := by
  intro k
  rw [ofTotals_nothing]
  decide

/-- **There are totals exactly if the durations add up to a duration**, and the counts to numbers of 64
    bits where this is checked. -/
theorem exists_ofReports?_iff : (∃ totals, ofReports? o reports = some totals) ↔
    elapsedNanos reports < durationLimit ∧ (o = .abort → CountsFit reports) := by
  have hzero : Duration.zero.nanos = 0 := rfl
  unfold ofReports?
  rw [exists_foldlM_iff fits_nothing]
  simp only [hzero, ofTotals_nothing, Nat.zero_add, CountsFit]

theorem eq_of_ofReports? (h : ofReports? o reports = some totals) :
    (∀ k : Counter, k.ofTotals totals = k.sum reports % UInt64.size) ∧
      totals.elapsed.nanos = elapsedNanos reports := by
  have hzero : Duration.zero.nanos = 0 := rfl
  obtain ⟨hsums, hnanos⟩ := eq_of_foldlM fits_nothing h
  simp only [ofTotals_nothing, hzero, Nat.zero_add] at hsums hnanos
  exact ⟨hsums, hnanos⟩

end Totals

end Uplift
