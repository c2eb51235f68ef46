import Uplift.Codemod
import Uplift.Duration

set_option autoImplicit false

/-! # Run reports

A codemod run counts files: changed, left alone, skipped by the engine, failed. Totals add up the
reports of a run. Counts are numbers of 64 bits, and a count that an engine reports can be any of these, so
a sum of counts may not fit. What then happens depends on how the program was built (`Overflow`). A sum of
durations overflows from `2 ^ 64` seconds on, in every build. -/

namespace Uplift

/-- What a build makes of a sum of counts that does not fit into 64 bits. -/
inductive Overflow where
  /-- Sums are checked, and the program ends. -/
  | abort
  /-- The sum is taken modulo `2 ^ 64`. -/
  | wrap
  deriving DecidableEq, Repr

/-- The sum of two counts. -/
def Overflow.add? (o : Overflow) (m n : Nat) : Option Nat :=
  if m + n < UInt64.size then some (m + n)
  else match o with
    | .abort => none
    | .wrap => some ((m + n) % UInt64.size)

/-- The file counts of one codemod run, and the time it took. -/
structure Report where
  ok : Nat := 0
  nochange : Nat := 0
  skip : Nat := 0
  error : Nat := 0
  elapsed : Duration := .zero
  deriving DecidableEq, Repr, Inhabited

namespace Report

/-- All files of the run. -/
def total? (o : Overflow) (r : Report) : Option Nat := do
  o.add? (← o.add? (← o.add? r.ok r.nochange) r.skip) r.error

/-- Whether a file failed. -/
def hasErrors (r : Report) : Bool := r.error > 0

end Report

/-- A codemod and the report of its run. -/
structure CodemodReport where
  codemod : Codemod
  report : Report
  deriving DecidableEq, Repr

/-- The sums over the reports of a run. -/
structure Totals where
  codemods : Nat := 0
  ok : Nat := 0
  nochange : Nat := 0
  skip : Nat := 0
  error : Nat := 0
  elapsed : Duration := .zero
  deriving DecidableEq, Repr, Inhabited

namespace Totals

/-- Add one report. -/
def add? (o : Overflow) (t : Totals) (r : Report) : Option Totals := do
  let codemods ← o.add? t.codemods 1
  let ok ← o.add? t.ok r.ok
  let nochange ← o.add? t.nochange r.nochange
  let skip ← o.add? t.skip r.skip
  let error ← o.add? t.error r.error
  let elapsed ← t.elapsed.add? r.elapsed
  return { codemods, ok, nochange, skip, error, elapsed }

/-- The totals of a run, unless the program ends before they are known. -/
def ofReports? (o : Overflow) (reports : List CodemodReport) : Option Totals :=
  reports.foldlM (fun t r => add? o t r.report) {}

end Totals

end Uplift
