import Worksheet.Address.Notation

/-!
# Cell Ranges

Rectangles of cells, given by two opposite corners.

A range is kept by its top left and its bottom right corner; `ofCorners` puts
two corners named in any order into that form. Counts are words: an axis that
is covered from its first to its last word has more lines than a word of 32
bits can say, and its count wraps around to zero.

## Main definitions

* `Range`: A rectangle of cells.
* `Range.ofCorners`, `Range.single`: The ranges with given corners.
* `Range.Normal`: The corners are in order on both axes.
* `Range.contains`: The cells of a range.
* `Range.rowCount`, `Range.colCount`, `Range.cellCount`: Its measures.
* `Range.clip`: The part of a range inside a grid of a given size.
* `Range.ofA1`, `Range.a1`: Reading and printing in A1 notation.
-/

namespace Worksheet

/-- A rectangle of cells. -/
structure Range where
  /-- The top left corner. -/
  first : Address
  /-- The bottom right corner. -/
  last : Address
  deriving DecidableEq, Repr, Inhabited

namespace Range

/-- The rectangle with two opposite corners, named in any order. -/
def ofCorners (a b : Address) : Range :=
  ⟨⟨min a.row b.row, min a.col b.col⟩, ⟨max a.row b.row, max a.col b.col⟩⟩

/-- The rectangle of one cell. -/
def single (a : Address) : Range :=
  ⟨a, a⟩

/-- The corners are in order on both axes. -/
def Normal (r : Range) : Prop :=
  r.first.row ≤ r.last.row ∧ r.first.col ≤ r.last.col

instance (r : Range) : Decidable r.Normal :=
  inferInstanceAs (Decidable (_ ∧ _))

/-- The cell lies in the rectangle. -/
def contains (r : Range) (a : Address) : Bool :=
  r.first.row ≤ a.row && a.row ≤ r.last.row && r.first.col ≤ a.col && a.col ≤ r.last.col

/-- The number of rows, as a word. -/
def rowCount (r : Range) : UInt32 :=
  r.last.row - r.first.row + 1

/-- The number of columns, as a word. -/
def colCount (r : Range) : UInt32 :=
  r.last.col - r.first.col + 1

/-- The number of cells, from the counts of rows and columns. -/
def cellCount (r : Range) : UInt64 :=
  r.rowCount.toUInt64 * r.colCount.toUInt64

/-- The part of a range inside the first rows and columns of a grid; none
    when they have no cell in common. -/
def clip (r : Range) (rows cols : UInt32) : Option Range :=
  if r.first.row < rows ∧ r.first.col < cols then
    some (ofCorners r.first ⟨min r.last.row (rows - 1), min r.last.col (cols - 1)⟩)
  else
    none

/-- The least rectangle that holds a rectangle and a further cell. -/
def cover (r : Range) (a : Address) : Range :=
  ⟨⟨min r.first.row a.row, min r.first.col a.col⟩, ⟨max r.last.row a.row, max r.last.col a.col⟩⟩

/-- Why a text names no range. -/
inductive Error where
  /-- There is no colon, and the text is no address. -/
  | address (cause : Address.Error)
  /-- What stands on one side of the first colon of `text` is no address. -/
  | corner (text : String) (cause : Address.Error)
  deriving DecidableEq, Repr

/-- What is shown for a text that names no range. -/
def Error.message : Error → String
  | .address cause => cause.message
  | .corner text cause => s!"Invalid cell range: '{text}': {cause.message}"

/-- The range that characters free of surrounding white space name: one
    address, or two with a colon between them. -/
def ofTrimmed (cs : List Char) : Except Error Range :=
  match cs.dropWhile (· != ':') with
  | [] => (Address.ofTrimmed cs).map single |>.mapError .address
  | _ :: right => do
    let corner (side : List Char) : Except Error Address :=
      (Address.ofTrimmed (Text.trim Text.isWhite side)).mapError (.corner (String.ofList cs))
    let a ← corner (cs.takeWhile (· != ':'))
    let b ← corner right
    return ofCorners a b

/-- The range a text names in A1 notation. -/
def ofA1 (text : String) : Except Error Range :=
  ofTrimmed (Text.trim Text.isWhite text.toList)

/-- The text of a range in A1 notation: one address for a single cell, else
    the two corners. -/
def a1 (r : Range) : String :=
  if r.first = r.last then r.first.a1 else s!"{r.first.a1}:{r.last.a1}"

end Range

end Worksheet
