import ToolRelay.Console.Style
import ToolRelay.Text.Blank
import ToolRelay.Text.Clip
import ToolRelay.Text.Line

/-!
# Tables

A table has a row of headers, a row of dashes, and a row for each list of cells, in columns two
spaces apart. A column is as wide as its widest cell. Where that is more than the terminal has room
for, the widest columns are narrowed first, to no less than four characters, and cells that are too
long are clipped.
-/

set_option autoImplicit false

namespace ToolRelay.Console.Table

/-- What stands between two columns. -/
def gap : List Char :=
  [' ', ' ']

/-- The width below which no column is narrowed. -/
def leastWidth : Nat := 4

/-- The widths raised to what the cells of a row take; cells beyond the last column do not count. -/
def widen : List Nat → List (List Char) → List Nat
  | w :: ws, c :: cs => max w (Text.Ansi.width c) :: widen ws cs
  | ws, _ => ws

/-- The widths at which nothing is clipped. -/
def naturalWidths (headers : List (List Char)) (rows : List (List (List Char))) : List Nat :=
  rows.foldl widen (headers.map List.length)

/-- How wide a table with columns of these widths is. -/
def totalWidth (widths : List Nat) : Nat :=
  widths.foldl (· + ·) 0 + (widths.length - 1) * gap.length

/-- The numbers of the columns, the widest first; of columns with one width the leftmost first. -/
def byWidth (widths : List Nat) : List Nat :=
  (List.range widths.length).mergeSort fun i j => (widths[j]?).getD 0 ≤ (widths[i]?).getD 0

/-- Takes `excess` from the columns in the given order, from each as much as it can give. -/
def narrow : (order : List Nat) → (excess : Nat) → (widths : List Nat) → List Nat
  | [], _, widths => widths
  | i :: order, excess, widths =>
    let given := min ((widths[i]?).getD 0 - leastWidth) excess
    narrow order (excess - given) (widths.modify i (· - given))

/-- The widths of the columns on a terminal. -/
def fittedWidths (width : Nat) (widths : List Nat) : List Nat :=
  narrow (byWidth widths) (totalWidth widths - width) widths

/-- A cell in a column: filled up with spaces, or clipped and without its control sequences. -/
def fit (width : Nat) (cell : List Char) : List Char :=
  let plain := Text.Ansi.visible cell
  if plain.length ≤ width then cell ++ List.replicate (width - plain.length) ' '
  else Text.clip width plain

/-- The cells of a row in their columns; a cell that is missing is empty. -/
def fitCells : List Nat → List (List Char) → List (List Char)
  | [], _ => []
  | w :: ws, [] => fit w [] :: fitCells ws []
  | w :: ws, c :: cs => fit w c :: fitCells ws cs

/-- One line of the table. -/
def row (widths : List Nat) (cells : List (List Char)) : List Char :=
  Text.trimEnd (Text.joinWith gap (fitCells widths cells))

/-- The line of dashes under the headers. -/
def rule (widths : List Nat) : List Char :=
  Text.joinWith gap (widths.map fun w => List.replicate w '-')

/-- The lines of a table that has a column. -/
def lines (headers : List (List Char)) (rows : List (List (List Char))) (s : Style) :
    List (List Char) :=
  let widths := fittedWidths s.width (naturalWidths headers rows)
  s.paint .accent (row widths headers) :: s.paint .dim (rule widths) :: rows.map (row widths)

end ToolRelay.Console.Table

namespace ToolRelay.Console

/-- The table of some rows under their headers; without headers there is nothing to show. -/
def table (headers : List String) (rows : List (List String)) (s : Style) : String :=
  if headers.isEmpty then ""
  else String.ofList (Text.joinWith ['\n']
    (Table.lines (headers.map String.toList) (rows.map (·.map String.toList)) s))

end ToolRelay.Console
