import JavaFormat.Text.Lines
import JavaFormat.Text.Width

/-!
# Grids

A grid shows rows of cells below each other.  Lines of dashes and plus signs go around all rows, and
every column is as wide as its widest cell.
-/

set_option autoImplicit false

namespace JavaFormat.Text

namespace Grid

/-- A cell, as the lines of its text. -/
abbrev Cell := List Line

/-- The cell with a text. -/
def cell (text : String) : Cell := segments text.toList

/-- The columns that a cell takes. -/
def cellWidth (cell : Cell) : Nat := (cell.map width).foldl max 0

/-- The width of every column, the widest of its cells. -/
def columnWidths (rows : List (List Cell)) : List Nat :=
  match rows with
  | [] => []
  | first :: rest =>
    rest.foldl (fun widths row => List.zipWith max widths (row.map cellWidth))
      (first.map cellWidth)

/-- The line between rows. -/
def rule (widths : List Nat) : List Char :=
  '+' :: widths.flatMap fun w => List.replicate (w + 2) '-' ++ ['+']

/-- The lines of a row. -/
def rowLines (widths : List Nat) (row : List Cell) : List Line :=
  let height := (row.map List.length).foldl max 0
  (List.range height).map fun i =>
    '|' :: (List.zip widths row).flatMap fun (w, cell) =>
      let text := cell.getD i []
      ' ' :: text ++ List.replicate (w - width text) ' ' ++ [' ', '|']

/-- The lines of a grid. -/
def gridLines (rows : List (List Cell)) : List Line :=
  let widths := columnWidths rows
  rule widths :: rows.flatMap fun row => rowLines widths row ++ [rule widths]

/-- The text of a grid, without a final line break. -/
def render (rows : List (List String)) : String :=
  String.ofList (['\n'].intercalate (gridLines (rows.map (·.map cell))))

end Grid

end JavaFormat.Text
