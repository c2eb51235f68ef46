import Uplift.Report
import Uplift.Table

set_option autoImplicit false

/-! # Reports and codemods as tables -/

namespace Uplift

open Text

/-- The table of a run: a row for each codemod and one for the totals. Counts and durations are set
    to the right. -/
def reportTable (reports : List CodemodReport) (totals : Totals) : Table where
  header := ["#", "Version", "Kind", "Name", "Affected", "Unchanged", "Duration"]
  rows := reports.zipIdx.map (fun (r, i) =>
      [decimal (i + 1), r.codemod.version.text, r.codemod.kind.text, r.codemod.title,
        decimal r.report.ok, decimal r.report.nochange, r.report.elapsed.text])
    ++ [["", "", "", "Total", decimal totals.ok, decimal totals.nochange, totals.elapsed.text]]
  right := [false, false, false, false, true, true, true]

/-- The table of the codemods in collections. -/
def codemodTable (collections : List Collection) : Table where
  header := ["Version", "Kind", "Name", "UID"]
  rows := collections.flatMap fun collection => collection.codemods.map fun c =>
    [collection.version.text, c.kind.text, c.title, c.uid]
  right := [false, false, false, false]

end Uplift
