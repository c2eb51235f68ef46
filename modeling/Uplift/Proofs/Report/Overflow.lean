import Uplift.Proofs.Engine.Summary
import Uplift.Proofs.Json.Record

set_option autoImplicit false

/-! # Times that end the program

Times come from outside as text, in the output of an engine and in JSON. Before a time is made a
duration, it is checked that it is finite and not negative. There is no check that it is below `2 ^ 64`
seconds, where durations end, so all times from there on pass and end the program.

This is the only thing that does. An engine's time is a decimal numeral, and overflows exactly if the
number it prints is not below the half before `2 ^ 64` but below the half before `2 ^ 1024`, from where
on it is no finite double (`durationOf_eq_none_iff`). In JSON, reading is cut short exactly where it
comes to a time that is read as a double of `2 ^ 64` or more (`Duration.decoder_eq_overflow_iff`).
`reading_overflows_iff` has both. -/

namespace Uplift

open Text

/-! ## Times of engines -/

namespace Summary

/-- What follows the whole part of a numeral. -/
def pointed (fraction : List Char) : List Char := if fraction.isEmpty then [] else '.' :: fraction

/-- The digits of a numeral as one number. -/
def digitsOf (numeral : List Char) : Nat := ofDigits (numeral.filter Char.isDigit)

/-- How many digits stand behind the point. -/
def decimals (numeral : List Char) : Nat := (numeral.dropWhile Char.isDigit).length - 1

/-- Whether the number that a numeral prints is at least a bound. -/
def AtLeast (numeral : List Char) (bound : Nat) : Prop :=
  bound * Nat.pow 10 (decimals numeral) ≤ digitsOf numeral

theorem numeralAt?_eq_some {cs numeral : List Char} (h : numeralAt? cs = some numeral) :
    ∃ whole fraction, isNumeral whole = true ∧ (∀ c ∈ fraction, c.isDigit = true) ∧
      numeral = whole ++ pointed fraction := by
  have hdigits (cs : List Char) : ∀ c ∈ cs.takeWhile Char.isDigit, c.isDigit = true :=
    fun c hc => List.mem_takeWhile_imp hc
  unfold numeralAt? at h
  dsimp only at h
  split at h
  · cases h
  · rename_i hne
    have hwhole : isNumeral (cs.takeWhile Char.isDigit) = true :=
      isNumeral_iff.2 ⟨fun hnil => hne (by simp [hnil]), hdigits cs⟩
    split at h
    · rename_i rest _
      refine ⟨_, rest.takeWhile Char.isDigit, hwhole, hdigits rest, ?_⟩
      rw [← Option.some.inj h, pointed]
      split <;> simp
    · refine ⟨_, [], hwhole, by simp, ?_⟩
      rw [← Option.some.inj h]
      exact (List.append_nil _).symm

theorem exists_numeralAt? {cs numeral : List Char} (h : time? cs = some numeral) :
    ∃ rest, numeralAt? rest = some numeral := by
  induction cs with
  | nil => cases h
  | cons c cs ih =>
    rw [time?, Option.or_eq_some_iff] at h
    obtain hhere | ⟨-, hlater⟩ := h
    · obtain ⟨rest, -, hnumeral⟩ := Option.bind_eq_some_iff.1 hhere
      exact ⟨trimLeft rest, hnumeral⟩
    · exact ih hlater

section

variable {whole fraction : List Char} (hwhole : isNumeral whole = true)
  (hfraction : ∀ c ∈ fraction, c.isDigit = true)

include hwhole hfraction

theorem digitsOf_append : digitsOf (whole ++ pointed fraction) = ofDigits (whole ++ fraction) := by
  have hkeepWhole : whole.filter Char.isDigit = whole :=
    List.filter_eq_self.2 (isNumeral_iff.1 hwhole).2
  have hkeep : (pointed fraction).filter Char.isDigit = fraction := by
    cases fraction with
    | nil => rfl
    | cons c cs => exact List.filter_eq_self.2 hfraction
  rw [digitsOf, List.filter_append, hkeepWhole, hkeep]

theorem decimals_append : decimals (whole ++ pointed fraction) = fraction.length := by
  rw [decimals, List.dropWhile_append_of_pos (isNumeral_iff.1 hwhole).2]
  cases fraction <;> rfl

theorem read?_append : Double.read? (whole ++ pointed fraction) =
    Double.ofDecimal? false (ofDigits (whole ++ fraction)) (-(fraction.length : Int)) := by
  obtain ⟨hne, hdigits⟩ := isNumeral_iff.1 hwhole
  cases fraction with
  | cons c cs =>
    exact read?_numeral ⟨whole, c :: cs, hwhole, isNumeral_iff.2 ⟨by simp, hfraction⟩⟩
  | nil =>
    have htake : whole.takeWhile Char.isDigit = whole := List.takeWhile_eq_self_iff.2 hdigits
    have hdrop : whole.dropWhile Char.isDigit = [] := List.dropWhile_eq_nil_iff.2 hdigits
    have habs : Double.read? whole = Double.readAbs? false whole := by
      obtain ⟨c, cs, rfl⟩ := List.exists_cons_of_ne_nil hne
      exact read?_of_isDigit (hdigits c List.mem_cons_self) cs
    have hwholeOnly : whole ++ pointed [] = whole := List.append_nil whole
    rw [hwholeOnly, habs, Double.readAbs?]
    simp [List.span_eq_takeWhile_dropWhile, htake, hdrop, Double.readExponent?, hne]

end

/-- A printed time overflows exactly if it is not below the half before `2 ^ 64`, from where on it is
    rounded up, but is finite. -/
theorem durationOf_eq_none_iff {cs numeral : List Char} (h : time? cs = some numeral) :
    durationOf numeral = none ↔
      AtLeast numeral Duration.decimalLimit ∧ ¬ AtLeast numeral Double.doubleLimit := by
  obtain ⟨rest, hnumeral⟩ := exists_numeralAt? h
  obtain ⟨whole, fraction, hwhole, hfraction, rfl⟩ := numeralAt?_eq_some hnumeral
  have hnone := Double.ofDecimal?_eq_none_iff false (ofDigits (whole ++ fraction)) fraction.length
  simp only [AtLeast, digitsOf_append hwhole hfraction, decimals_append hwhole hfraction, durationOf,
    read?_append hwhole hfraction, ← hnone]
  cases hread : Double.ofDecimal? false (ofDigits (whole ++ fraction)) (-(fraction.length : Int)) with
  | none => simp
  | some seconds => simp [Duration.ofSeconds?_ofDecimal? hread]

example : durationOf "18446744073709550592".toList = none ∧
    (durationOf "18446744073709550591.9".toList).isSome = true := by decide +kernel

theorem read_eq_overflow_iff (output : String) : read output = .overflow ↔
    ∃ cs numeral, afterLast? "Results:".toList output.toList = some cs ∧ time? cs = some numeral ∧
      AtLeast numeral Duration.decimalLimit ∧ ¬ AtLeast numeral Double.doubleLimit := by
  unfold read
  cases hmark : afterLast? "Results:".toList output.toList with
  | none => simp
  | some cs =>
    cases htime : time? cs with
    | none => simp [htime]
    | some numeral =>
      have hnone := durationOf_eq_none_iff htime
      cases hduration : durationOf numeral with
      | none => simpa [htime, hduration] using hnone.1 hduration
      | some d =>
        rw [hduration] at hnone
        simpa [htime, hduration] using hnone

end Summary

/-! ## Times in JSON -/

open Json

/-- A text starts with seconds that pass the check, but are `2 ^ 64` or more. -/
def Duration.TooLong (cs : List Char) : Prop :=
  ∃ seconds rest, Json.real cs = .ok (seconds, rest) ∧ seconds.isNegative = false ∧
    UInt64.size * Double.one ≤ seconds.units

theorem Duration.decoder_eq_overflow_iff {cs : List Char} :
    Duration.decoder cs = .error .overflow ↔ Duration.TooLong cs := by
  unfold Duration.decoder
  rw [bind_eq_error_iff]
  constructor
  · rintro (hreal | ⟨⟨seconds, rest⟩, hreal, h⟩)
    · exact absurd hreal (calm_real cs)
    · dsimp only at h
      split at h
      · cases h
      · rename_i hsign
        split at h
        · cases h
        · rename_i hnone
          have hrank := ((ofSeconds?_eq_none_iff seconds).1 hnone).resolve_left hsign
          exact ⟨seconds, rest, hreal, by simpa using hsign, (rankOfWords_le_iff seconds).1 hrank⟩
  · rintro ⟨seconds, rest, hreal, hsign, hunits⟩
    have hnone := (ofSeconds?_eq_none_iff seconds).2 (.inr ((rankOfWords_le_iff seconds).2 hunits))
    exact .inr ⟨(seconds, rest), hreal, by simp [hsign, hnone]⟩

theorem leavesSuffix_duration : LeavesSuffix Duration.decoder := by
  intro cs rest d h
  obtain ⟨⟨seconds, rest'⟩, hreal, h⟩ := bind_eq_ok_iff.1 h
  dsimp only at h
  split at h
  · cases h
  · split at h
    · obtain ⟨-, rfl⟩ := Prod.mk.inj (Except.ok.inj h)
      exact leavesSuffix_through leavesSuffix_number hreal
    · cases h

theorem leavesSuffix_kind : LeavesSuffix Kind.decoder := by
  intro cs rest kind h
  unfold Kind.decoder at h
  split at h
  · rename_i hopen
    refine List.IsSuffix.trans ?_ (suffix_of_skipGap hopen)
    obtain ⟨⟨kind', rest₁⟩, hkind, h⟩ := bind_eq_ok_iff.1 h
    refine List.IsSuffix.trans ?_ (leavesSuffix_through leavesSuffix_text hkind)
    dsimp only at h
    split at h
    · rename_i hcolon
      refine List.IsSuffix.trans ?_ (suffix_of_skipGap hcolon)
      split at h
      · rename_i hnull
        refine List.IsSuffix.trans ?_ ((isPrefixOf?_suffix hnull).trans (skipGap_suffix _))
        split at h
        · rename_i hclose
          obtain ⟨-, rfl⟩ := Prod.mk.inj (Except.ok.inj h)
          exact suffix_of_skipGap hclose
        · cases h
      · cases h
    · cases h
  · exact (leavesSuffix_through leavesSuffix_text h).trans (skipGap_suffix cs)

theorem calm_kind : Calm Kind.decoder := by
  intro cs h
  unfold Kind.decoder at h
  split at h
  · obtain hkind | ⟨⟨kind, rest⟩, -, h⟩ := bind_eq_error_iff.1 h
    · exact calm_through calm_text _ hkind
    · dsimp only at h
      split at h
      · split at h
        · split at h <;> cases h
        · cases h
      · cases h
  · exact calm_through calm_text _ h

/-! ## Records of JSON -/

theorem slotsLeaveSuffix_codemod : SlotsLeaveSuffix Codemod.Draft.slots :=
  slotsLeaveSuffix_nil.cons leavesSuffix_text
    |>.cons (leavesSuffix_through leavesSuffix_text)
    |>.cons (leavesSuffix_through leavesSuffix_text)
    |>.cons leavesSuffix_kind

theorem slotsLeaveSuffix_report : SlotsLeaveSuffix Totals.Draft.slots :=
  have hcount : LeavesSuffix Json.count := leavesSuffix_through leavesSuffix_number
  slotsLeaveSuffix_nil.cons leavesSuffix_duration
    |>.cons hcount |>.cons hcount |>.cons hcount |>.cons hcount

theorem slotsLeaveSuffix_totals : SlotsLeaveSuffix Totals.Draft.allSlots :=
  slotsLeaveSuffix_report.cons (leavesSuffix_through leavesSuffix_number)

theorem slotsLeaveSuffix_codemodReport : SlotsLeaveSuffix CodemodReport.Draft.slots :=
  slotsLeaveSuffix_nil.cons (leavesSuffix_record slotsLeaveSuffix_report _ _)
    |>.cons (leavesSuffix_record slotsLeaveSuffix_codemod _ _)

theorem calm_codemod : Calm Codemod.decoder := by
  have hat : OverflowsAt Codemod.Draft.slots "filename" Json.text :=
    (overflowsAt_nil _ _).cons_self
      |>.cons_calm (calm_through calm_text) (by decide)
      |>.cons_calm (calm_through calm_text) (by decide)
      |>.cons_calm calm_kind (by decide)
  intro cs h
  obtain ⟨value, -, hover⟩ := (record_overflow_iff_comesTo slotsLeaveSuffix_codemod hat _ _).1 h
  exact calm_text value hover

theorem overflowsAt_report : OverflowsAt Totals.Draft.slots "time_elapsed" Duration.decoder :=
  (overflowsAt_nil _ _).cons_self
    |>.cons_calm calm_count (by decide) |>.cons_calm calm_count (by decide)
    |>.cons_calm calm_count (by decide) |>.cons_calm calm_count (by decide)

theorem overflowsAt_totals : OverflowsAt Totals.Draft.allSlots "time_elapsed" Duration.decoder :=
  overflowsAt_report.cons_calm calm_count (by decide)

theorem overflowsAt_codemodReport : OverflowsAt CodemodReport.Draft.slots "report" Report.decoder :=
  (overflowsAt_nil _ _).cons_self |>.cons_calm calm_codemod (by decide)

theorem Report.decoder_eq_overflow_iff {cs : List Char} : Report.decoder cs = .error .overflow ↔
    ∃ value, ComesTo Totals.Draft.slots {} cs "time_elapsed" value ∧ Duration.TooLong value := by
  simp only [Report.decoder, record_overflow_iff_comesTo slotsLeaveSuffix_report overflowsAt_report,
    Duration.decoder_eq_overflow_iff]

/-- **Which times end the program.** Reading the output of an engine ends it exactly if the first time
    behind the last mark prints a number that is not below the half before `2 ^ 64`, but is finite.
    Reading the JSON of a report or of totals ends it exactly if the reading comes to a time of `2 ^ 64`
    seconds or more that is finite; that of a codemod report, if it comes to such a time within its
    report. In all other cases there is a result: what was read, or that nothing can be. -/
theorem reading_overflows_iff (output text : String) :
    (Summary.read output = .overflow ↔ ∃ cs numeral,
      Summary.afterLast? "Results:".toList output.toList = some cs ∧
      Summary.time? cs = some numeral ∧ Summary.AtLeast numeral Duration.decimalLimit ∧
      ¬ Summary.AtLeast numeral Double.doubleLimit) ∧
    (decode Report.decoder text = .error .overflow ↔ ∃ value,
      ComesTo Totals.Draft.slots {} text.toList "time_elapsed" value ∧ Duration.TooLong value) ∧
    (decode Totals.decoder text = .error .overflow ↔ ∃ value,
      ComesTo Totals.Draft.allSlots {} text.toList "time_elapsed" value ∧ Duration.TooLong value) ∧
    (decode CodemodReport.decoder text = .error .overflow ↔ ∃ report value,
      ComesTo CodemodReport.Draft.slots {} text.toList "report" report ∧
      ComesTo Totals.Draft.slots {} report "time_elapsed" value ∧ Duration.TooLong value) := by
  simp only [decode_eq_overflow_iff]
  refine ⟨Summary.read_eq_overflow_iff output, Report.decoder_eq_overflow_iff, ?_, ?_⟩
  · simp only [Totals.decoder, record_overflow_iff_comesTo slotsLeaveSuffix_totals overflowsAt_totals,
      Duration.decoder_eq_overflow_iff]
  · simp only [CodemodReport.decoder, Report.decoder_eq_overflow_iff,
      record_overflow_iff_comesTo slotsLeaveSuffix_codemodReport overflowsAt_codemodReport]
    constructor
    · rintro ⟨report, hreport, value, htime, hlong⟩
      exact ⟨report, value, hreport, htime, hlong⟩
    · rintro ⟨report, value, hreport, htime, hlong⟩
      exact ⟨report, hreport, value, htime, hlong⟩

/-- The JSON of a report with this time. -/
def timedReport (time : String) : String :=
  "\x7b\"ok\":0,\"nochange\":0,\"skip\":0,\"error\":0,\"time_elapsed\":" ++ time ++ "\x7d"

/-- Times of `2 ^ 64` seconds and more are let through by both checks. -/
theorem reading_overflows_at_words :
    Summary.read "Results:\n1 ok\nTime elapsed: 18446744073709551616\n" = .overflow ∧
    decode Report.decoder (timedReport "18446744073709551616") = .error .overflow ∧
    decode Report.decoder (timedReport "1e20") = .error .overflow ∧
    decode Report.decoder (timedReport "-1") = .error .malformed := by
  refine ⟨?_, ?_, ?_, ?_⟩ <;> decide +kernel

end Uplift
