import Worksheet.Range.Basic

/-!
# Walking a Range

The cells of a range one at a time, row by row.

A walk knows the row and the column it visits next and how many cells are
still to come. It steps right until the last column and then to the first
column of the next row. Rows are counted in a longer word than the rows of
cells are, since at the end of an axis the count goes on behind the last of
them. A range can hold far more cells than anyone wants at once, so `take`
visits as many as are asked for and returns the walk that is left.

## Main definitions

* `Walk`: A walk through a range, under way.
* `Range.walk`: The walk that starts at the first cell.
* `Walk.next?`: The next cell, and the walk after it.
* `Walk.sizeHint`: How many cells are still to come, as bounds.
* `Walk.take`: The next few cells, and the walk after them.
* `Range.cells`: All cells of a range in order.
-/

namespace Worksheet

/-- A walk through the cells of a range, row by row. -/
structure Walk where
  /-- The range that is walked. -/
  range : Range
  /-- The row visited next, while cells remain. -/
  row : UInt64
  /-- The column visited next, while cells remain. -/
  col : UInt32
  /-- The number of cells still to come. -/
  remaining : UInt64
  deriving DecidableEq, Repr

namespace Walk

/-- The cell visited next, while cells remain. -/
def here (w : Walk) : Address :=
  ⟨w.row.toUInt32, w.col⟩

/-- The walk after its next cell: one column to the right, or at the start of
    the next row. -/
def onward (w : Walk) : Walk :=
  if w.col = w.range.last.col then
    { w with row := w.row + 1, col := w.range.first.col, remaining := w.remaining - 1 }
  else
    { w with col := w.col + 1, remaining := w.remaining - 1 }

/-- The next cell and the walk after it; none at the end. -/
def next? (w : Walk) : Option (Address × Walk) :=
  if w.remaining = 0 then none else some (w.here, w.onward)

/-- The least and the greatest number of cells still to come, in sizes below
    `limit`. Of more cells than a size can say the least number is the largest
    size, and there is no greatest. -/
def sizeHint (limit : Nat) (w : Walk) : Nat × Option Nat :=
  let size? := if w.remaining.toNat < limit then some w.remaining.toNat else none
  (size?.getD (limit - 1), size?)

/-- The next cells, at most `n`, put in front of those visited before, latest
    first, and the walk after them. -/
def advance : Nat → Walk → List Address → List Address × Walk
  | 0, w, visited => (visited, w)
  | n + 1, w, visited =>
    match w.next? with
    | none => (visited, w)
    | some (a, rest) => advance n rest (a :: visited)

/-- The next cells in order, at most `n`, and the walk after them. -/
def take (n : Nat) (w : Walk) : List Address × Walk :=
  let (visited, rest) := advance n w []
  (visited.reverse, rest)

end Walk

namespace Range

/-- The walk through a range from its first cell. -/
def walk (r : Range) : Walk :=
  ⟨r, r.first.row.toUInt64, r.first.col, r.cellCount⟩

/-- The cells of a range, row by row. -/
def cells (r : Range) : List Address :=
  (r.walk.take r.cellCount.toNat).1

end Range

end Worksheet
