import Uplift.Proofs.Report.Totals
import Uplift.Proofs.Text.Title
import Uplift.Proofs.Version.Text
import Uplift.Report.Markdown

set_option autoImplicit false

/-! # No cell breaks the table of a report

In a markdown table a bar ends a cell and a line break ends a row. Cells are written as they are, so
the table of a report holds together only because no cell has one of the two in it
(`notMem_of_mem_reportCells`): numbers, versions, kinds and durations are built from few characters,
and a title has lost all separators of its file name.

A row is its padded cells with bars around them (`toList_row`), so it can be cut at its bars into the
same cells again and has one bar more than cells. The report is cut into lines in the same way, and the
table is what stands behind the last empty line (`report_ends_in_table`).

Before the table, the report shows the totals. If they are out of range, there may be no report
(`Totals.exists_ofReports?_iff`). -/

namespace Uplift

open Text

namespace Markdown

/-! ## Cells -/

/-- The cells in the row of a codemod. -/
def reportCells (i : Nat) (r : CodemodReport) : List String :=
  [decimal i, r.codemod.version.text, r.codemod.kind.text, r.codemod.title,
    decimal r.report.ok, decimal r.report.nochange, decimal r.report.skip, decimal r.report.error,
    r.report.elapsed.text]

section Separators

variable {d : Char}

theorem notMem_decimal (hd : d = '|' ∨ d = '\n') (n : Nat) : d ∉ (decimal n).toList := by
  rw [decimal, String.toList_ofList]
  apply notMem_digits
  obtain rfl | rfl := hd <;> decide

theorem notMem_versionText (hd : d = '|' ∨ d = '\n') (v : Version) : d ∉ v.text.toList := by
  rw [Version.text, String.toList_ofList]
  obtain rfl | rfl := hd <;>
    exact Version.notMem_chars (by decide) (by decide) (by decide) v

theorem notMem_kindText (hd : d = '|' ∨ d = '\n') (k : Kind) : d ∉ k.text.toList := by
  obtain rfl | rfl := hd <;> cases k <;> decide

/-- Separators of a file name are gone in the title. -/
theorem notMem_title (hd : d = '|' ∨ d = '\n') (c : Codemod) : d ∉ c.title.toList := by
  obtain rfl | rfl := hd
  · exact notMem_titleCase (by decide) (by decide) (by decide +kernel) c.name
  · exact notMem_titleCase (by decide) (by decide) (by decide +kernel) c.name

theorem notMem_fixed (hd : d = '|' ∨ d = '\n') (places : Nat) (s : Double) :
    d ∉ s.fixed places := by
  have hdigit : d.isDigit = false := by
    obtain rfl | rfl := hd <;> decide
  have hpoint : d ≠ '.' := by
    obtain rfl | rfl := hd <;> decide
  intro hmem
  have hdigits : ∀ n m : Nat, d ∉ Double.zeros n ++ digits m := by
    intro n m h
    obtain hzeros | hm := List.mem_append.1 h
    · rw [List.eq_of_mem_replicate hzeros] at hdigit
      cases hdigit
    · exact notMem_digits hdigit m hm
  obtain hwhole | hrest := List.mem_append.1 hmem
  · exact hdigits _ _ (List.mem_of_mem_take hwhole)
  · obtain rfl | hfraction := List.mem_cons.1 hrest
    · exact hpoint rfl
    · exact hdigits _ _ (List.mem_of_mem_drop hfraction)

theorem notMem_durationText (hd : d = '|' ∨ d = '\n') (e : Duration) : d ∉ e.text.toList := by
  have hunit : d ∉ "s".toList := by
    obtain rfl | rfl := hd <;> decide
  rw [Duration.text, String.toList_append, String.toList_ofList, List.mem_append]
  exact fun h => h.elim (notMem_fixed hd 3 e.seconds) hunit

/-- **No cell has a separator in it**, whatever the name of the codemod's file. -/
theorem notMem_of_mem_reportCells (hd : d = '|' ∨ d = '\n') {i : Nat} {r : CodemodReport}
    {cell : String} (h : cell ∈ reportCells i r) : d ∉ cell.toList := by
  simp only [reportCells, List.mem_cons, List.not_mem_nil, or_false] at h
  obtain rfl | rfl | rfl | rfl | rfl | rfl | rfl | rfl | rfl := h
  · exact notMem_decimal hd i
  · exact notMem_versionText hd r.codemod.version
  · exact notMem_kindText hd r.codemod.kind
  · exact notMem_title hd r.codemod
  · exact notMem_decimal hd r.report.ok
  · exact notMem_decimal hd r.report.nochange
  · exact notMem_decimal hd r.report.skip
  · exact notMem_decimal hd r.report.error
  · exact notMem_durationText hd r.report.elapsed

end Separators

/-! ## Rows -/

/-- A cell as it stands between two bars. -/
def padded (cell : String) : List Char := ' ' :: cell.toList ++ [' ']

/-- The pieces of a row between its bars. -/
def rowPieces (cells : List String) : List (List Char) := [] :: cells.map padded ++ [[]]

/-- A row without its line break. -/
def rowLine (cells : List String) : List Char := ['|'].intercalate (rowPieces cells)

theorem intercalate_padded (first : String) (cells : List String) :
    ['|'].intercalate ((first :: cells).map padded ++ [[]]) =
      ' ' :: ([' ', '|', ' '].intercalate ((first :: cells).map String.toList) ++ [' ', '|']) := by
  induction cells generalizing first with
  | nil => simp [padded]
  | cons next cells ih =>
    have hnext := ih next
    simp only [List.map_cons, List.cons_append] at hnext ⊢
    rw [List.intercalate_cons_cons, hnext, List.intercalate_cons_cons]
    simp [padded]

theorem toList_row (first : String) (cells : List String) :
    (row (first :: cells)).toList = rowLine (first :: cells) ++ ['\n'] := by
  have hcells := intercalate_padded first cells
  rw [rowLine, rowPieces, List.cons_append, List.intercalate_cons_of_ne_nil (by simp), hcells]
  simp [row, joined, String.toList_intercalate]

section

variable {cells : List String}

/-- What is in no cell is in no piece, unless it is the blank around the cells. -/
theorem notMem_of_mem_rowPieces {d : Char} (hd : d ≠ ' ') (h : ∀ cell ∈ cells, d ∉ cell.toList)
    {piece : List Char} (hpiece : piece ∈ rowPieces cells) : d ∉ piece := by
  simp only [rowPieces, List.cons_append, List.mem_cons, List.mem_append, List.mem_map,
    List.not_mem_nil, or_false] at hpiece
  obtain rfl | ⟨cell, hcell, rfl⟩ | rfl := hpiece
  · simp
  · simp [padded, hd, h cell hcell]
  · simp

/-- A row whose cells have no bars is cut into its cells at the bars. -/
theorem splitAt_rowLine (h : ∀ cell ∈ cells, '|' ∉ cell.toList) :
    Text.splitAt '|' (rowLine cells) = rowPieces cells := by
  apply splitAt_intercalate (by simp [rowPieces])
  intro piece hpiece
  exact notMem_of_mem_rowPieces (by decide) h hpiece

theorem count_rowLine (h : ∀ cell ∈ cells, '|' ∉ cell.toList) :
    (rowLine cells).count '|' = cells.length + 1 := by
  have hlength := length_splitAt '|' (rowLine cells)
  rw [splitAt_rowLine h] at hlength
  simp [rowPieces] at hlength
  omega

theorem lineBreak_notMem_rowLine (h : ∀ cell ∈ cells, '\n' ∉ cell.toList) :
    '\n' ∉ rowLine cells := by
  apply notMem_intercalate (by decide)
  intro piece hpiece
  exact notMem_of_mem_rowPieces (by decide) h hpiece

theorem prefix_rowLine (first : String) (cells : List String) :
    ("| " ++ first ++ " |").toList <+: rowLine (first :: cells) := by
  refine ⟨['|'].intercalate (cells.map padded ++ [[]]), ?_⟩
  rw [rowLine, rowPieces, List.cons_append, List.intercalate_cons_of_ne_nil (by simp), List.map_cons,
    List.cons_append, List.intercalate_cons_of_ne_nil (by simp)]
  simp [padded]

end

/-! ## Lines -/

/-- The lines of a text. What stands behind the last line break counts as a line, too. -/
def lines (text : String) : List (List Char) := Text.splitAt '\n' text.toList

/-- The cells in the head of the table. -/
def headCells : List String :=
  ["#", "Version", "Kind", "Name", "Affected", "Unchanged", "Skipped", "Errors", "Duration"]

/-- The line below the head of the table. -/
def ruleLine : List Char := "|---|---|---|---|---:|---:|---:|---:|---:|".toList

theorem rowLine_headCells : rowLine headCells =
    "| # | Version | Kind | Name | Affected | Unchanged | Skipped | Errors | Duration |".toList := by
  decide +kernel

/-- The row of the `i`th codemod, counted from zero. -/
def reportLine (r : CodemodReport × Nat) : List Char := rowLine (reportCells (r.2 + 1) r.1)

/-- The lines of the table. -/
def tableLines (reports : List CodemodReport) : List (List Char) :=
  rowLine headCells :: ruleLine :: reports.zipIdx.map reportLine

theorem toList_table (reports : List CodemodReport) :
    (table reports).toList = (tableLines reports).flatMap (· ++ ['\n']) := by
  have hhead : (row headCells).toList = rowLine headCells ++ ['\n'] := toList_row _ _
  have hrule : "|---|---|---|---|---:|---:|---:|---:|---:|\n".toList = ruleLine ++ ['\n'] := by
    decide +kernel
  have hrow (r : CodemodReport × Nat) :
      (reportRow (r.2 + 1) r.1).toList = reportLine r ++ ['\n'] := toList_row _ _
  have hrows : (reports.zipIdx.map fun r => reportRow (r.2 + 1) r.1).flatMap String.toList
      = (reports.zipIdx.map reportLine).flatMap (· ++ ['\n']) := by
    simp only [List.flatMap_map, hrow]
  have htop : tableHead.toList = rowLine headCells ++ ['\n'] ++ (ruleLine ++ ['\n']) := by
    rw [← hhead, ← hrule]
    exact String.toList_append
  rw [table, String.toList_append, String.toList_join, hrows, htop]
  simp [tableLines]

theorem lineBreak_notMem_tableLines {reports : List CodemodReport} {line : List Char}
    (h : line ∈ tableLines reports) : '\n' ∉ line := by
  simp only [tableLines, List.mem_cons, List.mem_map] at h
  obtain rfl | rfl | ⟨r, -, rfl⟩ := h
  · exact lineBreak_notMem_rowLine (by decide)
  · decide
  · exact lineBreak_notMem_rowLine fun cell hcell => notMem_of_mem_reportCells (.inr rfl) hcell

theorem count_tableLines {reports : List CodemodReport} {line : List Char}
    (h : line ∈ tableLines reports) : line.count '|' = 10 := by
  simp only [tableLines, List.mem_cons, List.mem_map] at h
  obtain rfl | rfl | ⟨r, -, rfl⟩ := h
  · exact count_rowLine (by decide)
  · decide
  · exact count_rowLine fun cell hcell => notMem_of_mem_reportCells (.inl rfl) hcell

/-- A report with codemods ends in an empty line and the table. -/
theorem lines_report {reports : List CodemodReport} (hne : reports ≠ []) (totals : Totals) :
    ∃ before, lines (report reports totals) = before ++ [] :: tableLines reports ++ [[]] := by
  have hempty : reports.isEmpty = false := List.isEmpty_eq_false_iff.2 hne
  have htext : (report reports totals).toList =
      ((summary totals).toList ++ "## Codemods".toList) ++ '\n' :: [] ++
        '\n' :: (table reports).toList := by
    simp [report, hempty]
  refine ⟨Text.splitAt '\n' ((summary totals).toList ++ "## Codemods".toList), ?_⟩
  rw [lines, htext, splitAt_append_cons, splitAt_append_cons, toList_table,
    splitAt_flatMap fun line hline => lineBreak_notMem_tableLines hline]
  simp [Text.splitAt, splitWhere]

/-- **No name of a file breaks the table of a report.** If the durations of some codemods add up to a
    duration, and their counts to numbers of 64 bits where the build checks this, there is a report of
    them in markdown. It shows the sums of their counts modulo `2 ^ 64`, and ends in a table of a head, a
    rule below it and a line for each codemod in order, after an empty line. Each line of the table has ten
    bars, and that of a codemod starts with its number and is cut at the bars into its cells. -/
theorem report_ends_in_table {o : Overflow} {reports : List CodemodReport} (hne : reports ≠ [])
    (helapsed : elapsedNanos reports < durationLimit) (hcounts : o = .abort → CountsFit reports) :
    ∃ totals before table, Totals.ofReports? o reports = some totals ∧
      (∀ k : Counter, k.ofTotals totals = k.sum reports % UInt64.size) ∧
      lines (report reports totals) = before ++ [] :: table ++ [[]] ∧
      table.length = reports.length + 2 ∧
      table[0]? = some
        "| # | Version | Kind | Name | Affected | Unchanged | Skipped | Errors | Duration |".toList ∧
      table[1]? = some "|---|---|---|---|---:|---:|---:|---:|---:|".toList ∧
      (∀ line ∈ table, line.count '|' = 10) ∧
      ∀ i r, reports[i]? = some r → ∃ line, table[i + 2]? = some line ∧
        ("| " ++ decimal (i + 1) ++ " |").toList <+: line ∧
        Text.splitAt '|' line = [] :: (reportCells (i + 1) r).map padded ++ [[]] := by
  obtain ⟨totals, htotals⟩ := Totals.exists_ofReports?_iff.2 ⟨helapsed, hcounts⟩
  have hsums := (Totals.eq_of_ofReports? htotals).1
  obtain ⟨before, hlines⟩ := lines_report hne totals
  refine ⟨totals, before, tableLines reports, htotals, hsums, hlines, by simp [tableLines],
    congrArg some rowLine_headCells, rfl, fun line hline => count_tableLines hline, ?_⟩
  intro i r hr
  refine ⟨reportLine (r, i), ?_, prefix_rowLine _ _, ?_⟩
  · simp [tableLines, hr]
  · exact splitAt_rowLine fun cell hcell => notMem_of_mem_reportCells (.inl rfl) hcell

/-- Two codemods with separators in the names of their files. The second name has no kind in it, so all
    of it counts. -/
def barred : List CodemodReport :=
  [⟨⟨.code, .release 2 0 0, ⟨"/codemods/2.0.0"⟩, "a|b\n| 3 |\nc.code.ts"⟩, { ok := 1 }⟩,
   ⟨⟨.document, .release 2 0 0, ⟨"/codemods/2.0.0"⟩, "|\n|d\r\n"⟩, { error := 1 }⟩]

theorem report_ends_in_table_barred :
    barred ≠ [] ∧ elapsedNanos barred < durationLimit ∧ CountsFit barred ∧
    barred.map (·.codemod.title) = ["A B 3 C", "D"] ∧
    ∃ totals before table, Totals.ofReports? .abort barred = some totals ∧ totals.codemods = 2 ∧
      lines (report barred totals) = before ++ [] :: table ++ [[]] ∧
      table.length = 4 ∧ (∀ line ∈ table, line.count '|' = 10) ∧
      ∃ line, table[3]? = some line ∧ "| 2 |".toList <+: line := by
  have hne : barred ≠ [] := by decide
  have helapsed : elapsedNanos barred < durationLimit := by decide
  have hcounts : CountsFit barred := fun k => by cases k <;> decide
  refine ⟨hne, helapsed, hcounts, by decide +kernel, ?_⟩
  obtain ⟨totals, before, table, htotals, hsums, hlines, hlength, -, -, hcount, hrow⟩ :=
    report_ends_in_table (o := .abort) hne helapsed fun _ => hcounts
  obtain ⟨line, hline, hprefix, -⟩ := hrow 1 _ rfl
  exact ⟨totals, before, table, htotals, hsums .codemods, hlines, hlength, hcount, line, hline, hprefix⟩

/-- The longest duration, and two nanoseconds. -/
def tooLong : List CodemodReport :=
  [⟨⟨.code, .release 1 0 0, ⟨"/c"⟩, "a.code.ts"⟩, { elapsed := ⟨durationLimit - 1, by decide⟩ }⟩,
   ⟨⟨.code, .release 1 0 0, ⟨"/c"⟩, "b.code.ts"⟩, { elapsed := ⟨2, by decide⟩ }⟩]

/-- The highest count, and one. -/
def tooMany : List CodemodReport :=
  [⟨⟨.code, .release 1 0 0, ⟨"/c"⟩, "a.code.ts"⟩, { ok := UInt64.size - 1 }⟩,
   ⟨⟨.code, .release 1 0 0, ⟨"/c"⟩, "b.code.ts"⟩, { ok := 1 }⟩]

/-- Of codemods that took too long together there is no report in any build, and of codemods that changed
    too many files together there is none in a build with checks. -/
theorem no_report_of_overflow :
    (tooLong ≠ [] ∧ ∀ o, Totals.ofReports? o tooLong = none) ∧
      (tooMany ≠ [] ∧ Totals.ofReports? .abort tooMany = none) := by
  refine ⟨⟨by decide, fun o => ?_⟩, by decide, ?_⟩
  · rw [Option.eq_none_iff_forall_ne_some]
    intro totals htotals
    exact absurd (Totals.exists_ofReports?_iff.1 ⟨totals, htotals⟩).1 (by decide)
  · rw [Option.eq_none_iff_forall_ne_some]
    intro totals htotals
    exact absurd ((Totals.exists_ofReports?_iff.1 ⟨totals, htotals⟩).2 rfl .ok) (by decide)

end Markdown

end Uplift
