import Reckoner.Session.Batch

/-!
# Tables for the eye

A table is shown as three columns under their titles, each as wide as its widest cell
and set to the right. This layout is a choice made here, for reading only: results stand in
it with all their digits and are not brought to a common number of them, and no cell is cut
short. The written form of a table is `Csv.ofTable`.
-/

namespace Reckoner.Table

/-- The titles of the columns. -/
def titles : List Text :=
  ["expression", "result", "error"]

/-- The cells of a row. -/
def cells (r : Row) : List Text :=
  [r.source, if r.result.isNaN then "NaN" else Text.ofFloat r.result, r.report.getD "None"]

/-- The width of each column of a list of rows. -/
def widths (rows : List (List Text)) : List Nat :=
  rows.foldl (fun ws row => List.zipWith (fun w cell => max w cell.length) ws row)
    (titles.map List.length)

/-- The cells of a row next to each other, each set to the right in its width. -/
def aligned (ws : List Nat) (row : List Text) : Text :=
  Text.joinWith " "
      (List.zipWith (fun w cell => List.replicate (w - cell.length) ' ' ++ cell) ws row) ++
    ['\n']

/-- The table as columns. -/
def listing (t : Table) : Text :=
  let rows := titles :: t.rows.map cells
  rows.flatMap (aligned (widths rows))

end Reckoner.Table
