import Clearance.Text.Width

/-!
# Tables

Tables with lines around their cells. A column is as wide as its widest line, with a blank on both
sides; a cell with line ends takes several lines, and so does its row.
-/

set_option autoImplicit false

namespace Clearance

/-- A table: the header, and rows with as many cells. -/
structure Table where
  header : List String
  rows : List (List String)

namespace Table

/-- The lines of a cell. -/
def cellLines (cell : String) : List String := (cell.toList.splitOn '\n').map String.ofList

/-- The width of a cell's widest line. -/
def cellWidth (cell : String) : Nat := ((cellLines cell).map Text.width).foldl max 0

/-- The widths of the columns. -/
def widths (t : Table) : List Nat :=
  t.rows.foldl (fun widths row => List.zipWith max widths (row.map cellWidth))
    (t.header.map cellWidth)

/-- A line of a cell, filled up with blanks. -/
def fill (width : Nat) (line : String) : String :=
  line ++ String.ofList (List.replicate (width - Text.width line) ' ')

/-- One line of a row, given the lines of its cells. -/
def rowLine (widths : List Nat) (lines : List (List String)) (index : Nat) : String :=
  "│ " ++ " ┆ ".intercalate
    (List.zipWith (fun width cell => fill width (cell.getD index "")) widths lines) ++ " │"

/-- The lines of a row. -/
def rowLines (widths : List Nat) (row : List String) : List String :=
  let lines := row.map cellLines
  let height := (lines.map List.length).foldl max 0
  (List.range height).map (rowLine widths lines)

/-- A line between rows or around the table. -/
def rule (left stroke crossing right : String) (widths : List Nat) : String :=
  left ++ crossing.intercalate
    (widths.map fun width => String.join (List.replicate (width + 2) stroke)) ++ right

/-- The rows with a line between each two of them. -/
def bodyLines (widths : List Nat) (rows : List (List String)) : List String :=
  ((rows.map (rowLines widths)).intersperse [rule "├" "╌" "┼" "┤" widths]).flatten

/-- The lines of a table. -/
def lines (t : Table) : List String :=
  let w := t.widths
  rule "┌" "─" "┬" "┐" w :: rowLines w t.header ++ rule "╞" "═" "╪" "╡" w :: bodyLines w t.rows ++
    [rule "└" "─" "┴" "┘" w]

/-- The text of a table. -/
def text (t : Table) : String := String.join (t.lines.map (· ++ "\n"))

end Table

end Clearance
