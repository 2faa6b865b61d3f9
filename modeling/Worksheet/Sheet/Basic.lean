import Std.Data.ExtTreeMap
import Worksheet.Grid
import Worksheet.Range.Basic

/-!
# Sheets

A named grid of raw texts.

A sheet stores the texts of the cells that hold something, and a displayed
size. Writing a text outside the size makes the size grow; writing the empty
text, or clearing a cell, empties the cell and leaves the size alone. A sheet
never grows past the limits of the axes, and resizing it drops the cells that
end up outside.

The cells are kept in an ordered map that is equal to another exactly when it
holds the same texts, so equality of sheets is equality of what they show.

## Main definitions

* `Sheet`: A name, a size and the texts of cells.
* `Sheet.empty`, `Sheet.fresh`: New sheets.
* `Sheet.text`: The text of a cell.
* `Sheet.write`, `Sheet.clear`, `Sheet.resize`, `Sheet.rename`: Changes.
* `Sheet.writeA1`, `Sheet.clearA1`, `Sheet.textA1`: The same by A1 address.
* `Sheet.entries`: The cells that hold something, row by row.
* `Sheet.usedRange?`: The least range that holds them all.
* `Sheet.grid`: The sheet as formulas read it.
-/

namespace Worksheet

/-- The texts of the cells that hold something, by address. -/
abbrev Cells : Type :=
  Std.ExtTreeMap Address String

/-- A named grid of raw texts with a displayed size. -/
structure Sheet where
  /-- The name of the sheet. -/
  name : String
  /-- The number of displayed rows. -/
  rows : UInt32
  /-- The number of displayed columns. -/
  cols : UInt32
  /-- The texts of the cells that hold something. -/
  cells : Cells
  deriving DecidableEq

namespace Sheet

/-- The number of rows of a fresh sheet. -/
def defaultRows : UInt32 := 30

/-- The number of columns of a fresh sheet. -/
def defaultCols : UInt32 := 12

/-- The name of a sheet that was given none. -/
def defaultName : String := "Sheet 1"

/-- An empty sheet of a size, or of the largest size below it. -/
def empty (name : String) (rows cols : UInt32) : Sheet :=
  ⟨name, min rows maxRows, min cols maxCols, ∅⟩

/-- An empty sheet of the default size. -/
def fresh (name : String) : Sheet :=
  empty name defaultRows defaultCols

/-- The sheet with another name. -/
def rename (s : Sheet) (name : String) : Sheet :=
  { s with name := name }

/-- The text of a cell, empty when it holds nothing. -/
def text (s : Sheet) (a : Address) : String :=
  s.cells[a]?.getD ""

/-- The sheet with a cell emptied. -/
def clear (s : Sheet) (a : Address) : Sheet :=
  { s with cells := s.cells.erase a }

/-- The sheet with a text in a cell that lies within the limits. -/
def store (s : Sheet) (a : Address) (text : String) : Sheet :=
  if text.isEmpty then
    s.clear a
  else
    { s with
      rows := max s.rows (a.row + 1)
      cols := max s.cols (a.col + 1)
      cells := s.cells.insert a text }

/-- The sheet with a text in a cell. A cell beyond the limits cannot be
    written, not even with the empty text. -/
def write (s : Sheet) (a : Address) (text : String) : Except OutOfBounds Sheet :=
  if maxRows ≤ a.row then
    .error (.row a.row.toUInt64)
  else if maxCols ≤ a.col then
    .error (.column a.col.toUInt64)
  else
    .ok (s.store a text)

/-- The sheet with another size, without the cells outside it. -/
def resize (s : Sheet) (rows cols : UInt32) : Sheet :=
  let rows := min rows maxRows
  let cols := min cols maxCols
  { s with
    rows := rows
    cols := cols
    cells := s.cells.filter fun a _ => a.row < rows && a.col < cols }

/-- The text of the cell that an A1 address names. -/
def textA1 (s : Sheet) (address : String) : Except Address.Error String :=
  (Address.ofA1 address).map s.text

/-- The sheet with a text in the cell that an A1 address names. -/
def writeA1 (s : Sheet) (address text : String) : Except Address.Error Sheet := do
  let a ← Address.ofA1 address
  (s.write a text).mapError .outOfBounds

/-- The sheet with the cell that an A1 address names emptied. -/
def clearA1 (s : Sheet) (address : String) : Except Address.Error Sheet :=
  (Address.ofA1 address).map s.clear

/-- The cells that hold something with their texts, row by row. -/
def entries (s : Sheet) : List (Address × String) :=
  s.cells.toList

/-- The number of cells that hold something. -/
def cellCount (s : Sheet) : Nat :=
  s.cells.size

/-- No cell holds anything. -/
def isEmpty (s : Sheet) : Bool :=
  s.cells.isEmpty

/-- The least range that holds every cell that holds something. -/
def usedRange? (s : Sheet) : Option Range :=
  match s.cells.keys with
  | [] => none
  | a :: rest => some (rest.foldl Range.cover (Range.single a))

/-- The sheet as formulas read it, with ranges read inside its size. -/
def grid (s : Sheet) : Grid :=
  ⟨s.text, some (s.rows, s.cols)⟩

end Sheet

end Worksheet
