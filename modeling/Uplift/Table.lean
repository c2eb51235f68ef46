import Uplift.Text.Split
import Uplift.Text.Width

set_option autoImplicit false

/-! # Tables

A table is drawn with a frame, a double line below its header and no lines between its rows. A
column is as wide as its widest cell by display width, with a blank on both sides. A cell with line
ends takes as many lines. -/

namespace Uplift

/-- A table; `right` says for each column whether its cells are set to the right. -/
structure Table where
  header : List String
  rows : List (List String)
  right : List Bool
  deriving Repr

namespace Table

open Text

/-- The lines of a cell. -/
def cellLines (cell : String) : List String :=
  (Text.splitAt '\n' cell.toList).map String.ofList

/-- The columns that a cell takes. -/
def cellWidth (cell : String) : Nat := ((cellLines cell).map width).foldl max 0

/-- The widest of each column. -/
def widths (t : Table) : List Nat :=
  t.rows.foldl (fun ws row => List.zipWith max ws (row.map cellWidth)) (t.header.map cellWidth)

/-- Some copies of a text. -/
def copies (n : Nat) (s : String) : String := String.join (List.replicate n s)

/-- A horizontal line. -/
def rule (left line cross right : String) (ws : List Nat) : String :=
  left ++ joined cross (ws.map fun w => copies (w + 2) line) ++ right

/-- A text in a column. -/
def padded (w : Nat) (right : Bool) (s : String) : String :=
  let blanks := copies (w - width s) " "
  if right then " " ++ blanks ++ s ++ " " else " " ++ s ++ blanks ++ " "

/-- One line of a row. -/
def line (ws : List Nat) (right : List Bool) (cells : List String) : String :=
  "│" ++ joined "┆" ((ws.zip (right.zip cells)).map fun (w, r, s) => padded w r s) ++ "│"

/-- The lines of a row. -/
def rowLines (ws : List Nat) (right : List Bool) (row : List String) : List String :=
  let cells := row.map cellLines
  let height := (cells.map List.length).foldl max 1
  (List.range height).map fun i => line ws right (cells.map fun ls => ls[i]?.getD "")

/-- Draw a table; there is no line end after it. -/
def render (t : Table) : String :=
  let ws := t.widths
  joined "\n" ([rule "┌" "─" "┬" "┐" ws] ++ rowLines ws t.right t.header
    ++ [rule "╞" "═" "╪" "╡" ws] ++ t.rows.flatMap (rowLines ws t.right)
    ++ [rule "└" "─" "┴" "┘" ws])

end Table

end Uplift
