import ApiLint.Decimal.Basic
import ApiLint.Report.Wrap

/-! Tables of a given width. Columns are first as wide as their longest line; when they do not fit
together, the widest ones that may wrap give way first, and what is left over is shared out in
proportion. -/

namespace ApiLint.Layout

structure Column where
  title : String
  wraps : Bool
  overflow : Overflow

/-- The cells that a table needs between and beside its columns. -/
def frame : Nat := 5

/-- The blank cells of a column. -/
def padding : Nat := 2

def longestLine (cs : List Char) : Nat :=
  ((Text.splitLines cs).map Text.width).foldl max 0

/-- The width that a column of cells asks for, up to a limit. -/
def measure (limit : Nat) (cells : List (List Char)) : Nat :=
  (cells.map fun cs => min (longestLine cs + padding) limit).foldl max 0

/-- What widths or ratios come to together. -/
def sumOf (ns : List Nat) : Nat :=
  ns.foldr (· + ·) 0

/-- The state of sharing a total among columns. -/
structure Sharing where
  total : Nat
  weight : Nat

/-- Takes a total away from values in proportion to ratios, and from none more than its maximum. -/
def reduceFrom (s : Sharing) : List (Nat × Nat × Nat) → List Nat
  | [] => []
  | (ratio, most, value) :: rest =>
    if ratio ≠ 0 ∧ s.weight ≠ 0 then
      let share := min most (roundDiv (ratio * s.total) s.weight)
      (value - share) :: reduceFrom ⟨s.total - share, s.weight - ratio⟩ rest
    else value :: reduceFrom s rest

def reduce (total : Nat) (ratios maximums values : List Nat) : List Nat :=
  let ratios := (ratios.zip maximums).map fun p => if p.2 = 0 then 0 else p.1
  if sumOf ratios = 0 then values
  else reduceFrom ⟨total, sumOf ratios⟩ (ratios.zip (maximums.zip values))

/-- Shares a total out in proportion to ratios; each share is rounded up. -/
def distributeFrom (s : Sharing) : List Nat → List Nat
  | [] => []
  | ratio :: rest =>
    let share := if s.weight = 0 then s.total else (ratio * s.total + s.weight - 1) / s.weight
    share :: distributeFrom ⟨s.total - share, s.weight - ratio⟩ rest

def distribute (total : Nat) (ratios : List Nat) : List Nat :=
  distributeFrom ⟨total, sumOf ratios⟩ ratios

/-- Takes from the widest columns that may wrap until all fit or no column is wider than another; each
round takes one cell at least, so that `rounds` need not exceed what the columns are too wide. -/
def collapse (limit : Nat) (wraps : List Bool) : Nat → List Nat → List Nat
  | 0, widths => widths
  | rounds + 1, widths =>
    let excess := sumOf widths - limit
    let free := (widths.zip wraps).filterMap fun p => if p.2 then some p.1 else none
    let widest := free.foldl max 0
    let second := (free.filter fun w => w ≠ widest).foldl max 0
    if excess = 0 ∨ widest = second then widths
    else
      let ratios := (widths.zip wraps).map fun p => if p.2 && p.1 = widest then 1 else 0
      let most := widths.map fun _ => min excess (widest - second)
      collapse limit wraps rounds (reduce excess ratios most widths)

/-- The widths of columns that together must not exceed a limit. -/
def narrow (limit : Nat) (wraps : List Bool) (widths : List Nat) : List Nat :=
  let widths := collapse limit wraps (sumOf widths - limit) widths
  if limit < sumOf widths then
    reduce (sumOf widths - limit) (widths.map fun _ => 1) widths widths
  else widths

def columnWidths (limit : Nat) (columns : List (Column × List (List Char))) : List Nat :=
  let asked := columns.map fun c => max 1 (measure limit c.2)
  let widths :=
    if limit < sumOf asked then
      (columns.zip (narrow limit (columns.map fun c => c.1.wraps) asked)).map fun p =>
        measure p.2 p.1.2
    else asked
  if sumOf widths < limit then
    (widths.zip (distribute (limit - sumOf widths) widths)).map fun p => p.1 + p.2
  else widths

/-- Lines beside one another. -/
def rowLine (cells : List (List Char)) : List Char :=
  ' ' :: List.intercalate [' '] cells ++ [' ']

/-- The lines of cells that stand side by side, the missing ones blank. -/
def beside (height : Nat) (cells : List (Nat × List (List Char))) : List (List Char) :=
  (List.range height).map fun i =>
    rowLine (cells.map fun c => (c.2[i]?).getD (List.replicate c.1 ' '))

/-- The lines of the highest cell. -/
def tallest (cells : List (Nat × List (List Char))) : Nat :=
  (cells.map fun c => c.2.length).foldl max 0

/-- The lines of a cell in a column of a width, each with a blank on both sides. A column that is no
wider than its blanks shows nothing. -/
def columnLines (width : Nat) (column : Column) (content : List Char) : List (List Char) :=
  if width ≤ padding then []
  else
    (cellLines (width - padding) column.wraps column.overflow content).map fun line =>
      ' ' :: line ++ [' ']

/-- A row whose cells start on its first line. A row has one line at least. -/
def rowLines (columns : List (Nat × Column)) (row : List (List Char)) : List (List Char) :=
  let cells := (columns.zip row).map fun p => (p.1.1, columnLines p.1.1 p.1.2 p.2)
  beside (max 1 (tallest cells)) cells

/-- The titles of the columns, which end on one line. -/
def headerLines (columns : List (Nat × Column)) : List (List Char) :=
  let cells := columns.map fun c => (c.1, columnLines c.1 c.2 c.2.title.toList)
  let height := tallest cells
  beside (max 1 height) (cells.map fun c =>
    (c.1, List.replicate (height - c.2.length) (List.replicate c.1 ' ') ++ c.2))

def columnCells : List Column → List (List (List Char)) → List (Column × List (List Char))
  | [], _ => []
  | column :: columns, rows =>
    (column, column.title.toList :: rows.filterMap List.head?) ::
      columnCells columns (rows.map List.tail)

/-- The columns of a table with their widths. -/
def sizedColumns (width : Nat) (columns : List Column) (rows : List (List (List Char))) :
    List (Nat × Column) :=
  (columnWidths (width - frame) (columnCells columns rows)).zip columns

/-- The lines of a table between two blank lines. -/
def tableLines (width : Nat) (columns : List Column) (rows : List (List (List Char))) :
    List (List Char) :=
  let widths := columnWidths (width - frame) (columnCells columns rows)
  let sized := sizedColumns width columns rows
  let blank := List.replicate (sumOf widths + frame) ' '
  let rule := ' ' :: List.replicate (sumOf widths + frame - 2) '─' ++ [' ']
  blank :: headerLines sized ++ rule :: rows.flatMap (rowLines sized) ++ [blank]

end ApiLint.Layout
