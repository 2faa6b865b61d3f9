import Worksheet.Formula.Value
import Worksheet.Sheet.Basic

/-!
# Displaying Sheets

What the cells of a sheet show, one at a time or as a rectangle.

A cell that holds nothing shows nothing, a text shows itself, and a formula
shows its value, read from the raw texts of the same sheet. A display is a
rectangle from the first cell on: the whole displayed size, or as much as the
used range needs. It also counts the formulas in it and those that show a
fault.

## Main definitions

* `Sheet.shownAt`: What one cell shows.
* `isFormulaText`: A text starts like a formula.
* `Display`: A rectangle of shown texts with its counts.
* `Sheet.usedSize`: The rows and columns from the first cell to the last used.
* `Sheet.display`, `Sheet.displayUsed`: The displays of a sheet.
-/

namespace Worksheet

namespace Sheet

/-- What a cell shows. -/
def shownAt (s : Sheet) (a : Address) : String :=
  let text := s.text a
  if text.isEmpty then "" else s.grid.shown text

end Sheet

/-- The text starts like a formula, blanks aside. -/
def isFormulaText (text : String) : Bool :=
  (Text.trim Text.isBlank text.toList).head? == some '='

/-- A shown text, and what it counts as. -/
structure Shown where
  /-- The text. -/
  text : String
  /-- It is the value of a formula. -/
  formula : Bool
  /-- It is the label of a formula's fault. -/
  fault : Bool
  deriving DecidableEq

/-- A rectangle of shown texts that starts at the first cell of a sheet. -/
structure Display where
  /-- The texts, row by row. -/
  rows : List (List String)
  /-- The number of columns, also when there are no rows. -/
  cols : UInt32
  /-- The number of formulas. -/
  formulas : Nat
  /-- The number of formulas that show a fault. -/
  faults : Nat
  deriving DecidableEq

namespace Display

/-- The number of rows. -/
def rowCount (d : Display) : UInt32 :=
  UInt32.ofNat d.rows.length

/-- The text shown at a place; none outside the rectangle. -/
def get? (d : Display) (a : Address) : Option String :=
  d.rows[a.row.toNat]? >>= fun row => row[a.col.toNat]?

/-- The display of a rectangle of shown texts. -/
def ofShown (cols : UInt32) (rows : List (List Shown)) : Display where
  rows := rows.map fun row => row.map Shown.text
  cols := cols
  formulas := rows.flatten.countP Shown.formula
  faults := rows.flatten.countP Shown.fault

end Display

namespace Sheet

/-- What a cell of a display shows. -/
def cellShown (s : Sheet) (a : Address) : Shown :=
  let text := s.text a
  if isFormulaText text then
    match s.grid.value text with
    | .fault f => ⟨f.label, true, true⟩
    | value => ⟨value.shown, true, false⟩
  else
    ⟨text, false, false⟩

/-- The addresses of the first rows and columns, row by row. -/
def rectangle (rows cols : UInt32) : List (List Address) :=
  (List.range rows.toNat).map fun row =>
    (List.range cols.toNat).map fun col => ⟨UInt32.ofNat row, UInt32.ofNat col⟩

/-- The display of the first rows and columns of a sheet. -/
def displayOf (s : Sheet) (rows cols : UInt32) : Display :=
  .ofShown cols ((rectangle rows cols).map fun row => row.map s.cellShown)

/-- The numbers of rows and columns from the first cell to the last one of the
    used range; none at all for an empty sheet. -/
def usedSize (s : Sheet) : UInt32 × UInt32 :=
  match s.usedRange? with
  | some r => (r.last.row + 1, r.last.col + 1)
  | none => (0, 0)

/-- The display of the whole size of a sheet. -/
def display (s : Sheet) : Display :=
  s.displayOf s.rows s.cols

/-- The display of a sheet up to the end of its used range. -/
def displayUsed (s : Sheet) : Display :=
  s.displayOf s.usedSize.1 s.usedSize.2

end Sheet

end Worksheet
