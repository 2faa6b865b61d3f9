import Std.Data.ExtTreeMap

/-!
# Cell Addresses

A cell's place in a sheet, counted from zero on both axes, the limits of the
axes, and what can be wrong with an address.

Addresses are words of 32 bits and may lie beyond the limits; what checks a
limit says so. They are ordered row by row, the order in which ranges are
walked and sheets are listed.

## Main definitions

* `Address`: A row and a column.
* `maxRows`, `maxCols`: The limits of the two axes.
* `Address.InLimits`: An address a sheet can hold.
* `OutOfBounds`: An index that is too large for its axis.
* `Address.Error`: Why a text names no address.
-/

namespace Worksheet

/-- The number of rows a sheet can have. -/
def maxRows : UInt32 := 1048576

/-- The number of columns a sheet can have. -/
def maxCols : UInt32 := 16384

/-- A cell's place, counted from zero. -/
structure Address where
  /-- The row. -/
  row : UInt32
  /-- The column; column `A` is zero. -/
  col : UInt32
  deriving DecidableEq, Repr, Inhabited

namespace Address

/-- Addresses are compared by row first, then by column. -/
instance : Ord Address where
  compare a b := (compareLex (compareOn Address.row) (compareOn Address.col)) a b

instance : Std.TransOrd Address :=
  inferInstanceAs (Std.TransCmp (compareLex (compareOn Address.row) (compareOn Address.col)))

instance : Std.LawfulEqOrd Address where
  compare_self := Std.ReflCmp.compare_self
  eq_of_compare {a b} h := by
    have h' : (compare a.row b.row).then (compare a.col b.col) = .eq := h
    rw [Ordering.then_eq_eq] at h'
    have hr := Std.LawfulEqCmp.eq_of_compare h'.1
    have hc := Std.LawfulEqCmp.eq_of_compare h'.2
    cases a
    cases b
    simp_all only

/-- The address lies within the limits of a sheet. -/
def InLimits (a : Address) : Prop :=
  a.row < maxRows ∧ a.col < maxCols

instance (a : Address) : Decidable a.InLimits :=
  inferInstanceAs (Decidable (_ ∧ _))

end Address

/-- An index, counted from zero, that is too large for its axis. -/
inductive OutOfBounds where
  /-- The row index is not below `maxRows`. -/
  | row (index : UInt64)
  /-- The column index is not below `maxCols`. -/
  | column (index : UInt64)
  deriving DecidableEq, Repr

/-- What is shown for an index that is too large. -/
def OutOfBounds.message : OutOfBounds → String
  | .row index => s!"Row index {index} out of bounds (max: {maxRows - 1})"
  | .column index => s!"Column index {index} out of bounds (max: {maxCols - 1})"

/-- Why a text names no address. -/
inductive Address.Error where
  /-- There is nothing but white space. -/
  | empty
  /-- The text does not begin with column letters. -/
  | noColumnLetters (text : String)
  /-- The column is not written in letters. -/
  | badColumnLetters (letters : String)
  /-- Nothing follows the column letters. -/
  | noRowNumber (text : String)
  /-- Something other than digits follows the column letters. -/
  | badRowNumber (text : String)
  /-- Rows are counted from one in text. -/
  | zeroRow (text : String)
  /-- The row or the column is too large. -/
  | outOfBounds (cause : OutOfBounds)
  deriving DecidableEq, Repr

namespace Address.Error

/-- What is shown for a text that is not in A1 notation. -/
private def malformed (detail : String) : String :=
  s!"Invalid cell address: {detail}"

/-- What is shown for a text that names no address. -/
def message : Address.Error → String
  | .empty => malformed "empty address"
  | .noColumnLetters text => malformed s!"no column letters in '{text}'"
  | .badColumnLetters letters => malformed s!"invalid column letters '{letters}'"
  | .noRowNumber text => malformed s!"no row number in '{text}'"
  | .badRowNumber text => malformed s!"invalid row number in '{text}'"
  | .zeroRow text => malformed s!"row number must be >= 1 in '{text}'"
  | .outOfBounds cause => cause.message

end Address.Error

end Worksheet
