import Uplift.Report

set_option autoImplicit false

/-! # Reports in markdown -/

namespace Uplift.Markdown

open Text

/-- A row of a table. -/
def row (cells : List String) : String := "| " ++ joined " | " cells ++ " |\n"

/-- The row of a codemod. -/
def reportRow (i : Nat) (r : CodemodReport) : String :=
  row [decimal i, r.codemod.version.text, r.codemod.kind.text, r.codemod.title,
    decimal r.report.ok, decimal r.report.nochange, decimal r.report.skip, decimal r.report.error,
    r.report.elapsed.text]

/-- The totals of a run. -/
def summary (t : Totals) : String :=
  "# upgrader run\n\n"
    ++ "- Codemods: " ++ decimal t.codemods ++ "\n"
    ++ "- Affected: " ++ decimal t.ok ++ "\n"
    ++ "- Unchanged: " ++ decimal t.nochange ++ "\n"
    ++ "- Skipped: " ++ decimal t.skip ++ "\n"
    ++ "- Errors: " ++ decimal t.error ++ "\n"
    ++ "- Duration: " ++ t.elapsed.text ++ "\n\n"

/-- The head of the table of codemods. -/
def tableHead : String :=
  row ["#", "Version", "Kind", "Name", "Affected", "Unchanged", "Skipped", "Errors", "Duration"]
    ++ "|---|---|---|---|---:|---:|---:|---:|---:|\n"

/-- The table of codemods. -/
def table (reports : List CodemodReport) : String :=
  tableHead ++ String.join (reports.zipIdx.map fun (r, i) => reportRow (i + 1) r)

/-- The report of a run. -/
def report (reports : List CodemodReport) (totals : Totals) : String :=
  summary totals ++ "## Codemods\n\n"
    ++ (if reports.isEmpty then "_No codemods ran._\n" else table reports)

end Uplift.Markdown
