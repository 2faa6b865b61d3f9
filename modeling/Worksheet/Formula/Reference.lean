import Worksheet.Range.Basic

/-!
# References

Cells and ranges as formulas name them.

A reference is kept as it is written, with its column and its row counted from
one in words of 64 bits. It may name row zero or a place beyond the limits,
and then it names no cell; numbers too long for a word stay at the largest
one. A range is written as two corners in any order. Row zero adds no cells to
a range and neither does what lies beyond the limits.

## Main definitions

* `Reference`: A column and a row as written.
* `Reference.address?`: The cell a reference names.
* `Corners`: Two opposite corners of a range as written.
* `Corners.range?`: The cells between two corners.
* `Reference.split?`: The reference at the start of a text.
* `Corners.ofChars?`: The corners a text names.
-/

namespace Worksheet

/-- A cell as a formula names it, counted from one. -/
structure Reference where
  /-- The number of the column. -/
  column : UInt64
  /-- The number of the row. -/
  row : UInt64
  deriving DecidableEq, Repr

/-- A range as a formula names it. -/
structure Corners where
  /-- The corner written first. -/
  first : Reference
  /-- The opposite corner. -/
  second : Reference
  deriving DecidableEq, Repr

namespace Reference

/-- The cell a reference names, if there is one within the limits. -/
def address? (r : Reference) : Option Address :=
  if r.row = 0 ∨ r.column = 0 then
    none
  else if r.row - 1 < maxRows.toUInt64 ∧ r.column - 1 < maxCols.toUInt64 then
    some ⟨(r.row - 1).toUInt32, (r.column - 1).toUInt32⟩
  else
    none

/-- The reference at the start of a text, letters followed by digits, and what
    follows it. -/
def split? (cs : List Char) : Option (Reference × List Char) :=
  let letters := cs.takeWhile Char.isAlpha
  let afterLetters := cs.dropWhile Char.isAlpha
  let digits := afterLetters.takeWhile Char.isDigit
  if digits.isEmpty then
    none
  else
    (Column.number? letters).map fun column =>
      (⟨column, Numeral.saturated 10 (digits.map Numeral.decimalDigit)⟩,
        afterLetters.dropWhile Char.isDigit)

/-- The reference that is the whole of a text. -/
def ofChars? (cs : List Char) : Option Reference :=
  match split? cs with
  | some (r, []) => some r
  | _ => none

end Reference

namespace Corners

/-- The cells between two corners, as a range within the limits; none when
    there is no such cell. -/
def range? (c : Corners) : Option Range :=
  let firstRow := max (min c.first.row c.second.row) 1
  let lastRow := max c.first.row c.second.row
  let firstCol := max (min c.first.column c.second.column) 1
  let lastCol := max c.first.column c.second.column
  if lastRow < firstRow ∨ lastCol < firstCol then
    none
  else if maxRows.toUInt64 < firstRow ∨ maxCols.toUInt64 < firstCol then
    none
  else
    some (Range.ofCorners
      ⟨(firstRow - 1).toUInt32, (firstCol - 1).toUInt32⟩
      ⟨(min lastRow maxRows.toUInt64 - 1).toUInt32, (min lastCol maxCols.toUInt64 - 1).toUInt32⟩)

/-- The corners that a text without blanks at its ends names: two references
    with a colon and optional blanks between them. -/
def ofChars? (cs : List Char) : Option Corners := do
  let (first, afterFirst) ← Reference.split? cs
  match Text.trimLeft Text.isBlank afterFirst with
  | ':' :: afterColon =>
    let second ← Reference.ofChars? (Text.trimLeft Text.isBlank afterColon)
    return ⟨first, second⟩
  | _ => none

end Corners

end Worksheet
