import Worksheet.Formula.Aggregate
import Worksheet.Formula.Reader
import Worksheet.Grid
import Worksheet.Number.Notation
import Worksheet.Range.Walk

/-!
# Values of Formulas

What a cell shows.

A literal shows as itself, and a formula shows its value, read from a grid.
Other cells are read for the number in their text and never for the value of
a formula, so evaluation goes one level deep and cannot run in circles. A
range passes over cells that hold no number, while an operand without a
number counts as zero. Division by either zero is a fault, and so is a text
that starts like a formula and is none.

## Main definitions

* `Fault`: What goes wrong in a formula.
* `Value`: What a cell shows, before it is turned into text.
* `Grid.numbers`: The numbers in a range.
* `Grid.number`: The number of an operand.
* `Operator.apply`: The value of an operation.
* `Grid.value`: The value of a cell's text.
* `Grid.shown`: The text shown for a cell's text.
-/

namespace Worksheet

/-- What goes wrong in a formula. -/
inductive Fault where
  /-- The text starts like a formula and is none. -/
  | invalid
  /-- The divisor is zero. -/
  | divisionByZero
  deriving DecidableEq, Repr

namespace Fault

/-- The text shown in place of a value. -/
def label : Fault → String
  | invalid => "#ERR"
  | divisionByZero => "#DIV/0"

/-- The fault with a label. -/
def ofLabel? (text : String) : Option Fault :=
  [invalid, divisionByZero].find? fun fault => fault.label == text

end Fault

/-- What a cell shows. -/
inductive Value where
  /-- A text, shown as it is. -/
  | text (t : String)
  /-- A number. -/
  | number (x : Number)
  /-- A fault, shown by its label. -/
  | fault (f : Fault)
  deriving DecidableEq

/-- The text a value is shown with. -/
def Value.shown : Value → String
  | .text t => t
  | .number x => x.text
  | .fault f => f.label

/-- The value of an operation on two numbers. -/
def Operator.apply (op : Operator) (x y : Number) : Value :=
  match op with
  | .add => .number (x + y)
  | .sub => .number (x - y)
  | .mul => .number (x * y)
  | .div => if y.isZero then .fault .divisionByZero else .number (x / y)

namespace Grid

/-- The numbers of rows and columns that ranges are read in. -/
def bounds (g : Grid) : UInt32 × UInt32 :=
  g.size.getD (maxRows, maxCols)

/-- The number in a cell, if its text stands for one. -/
def numberAt? (g : Grid) (a : Address) : Option Number :=
  Number.ofText? (g.text a)

/-- The part of a range as written that a grid is read in. -/
def clipped (g : Grid) (corners : Corners) : Option Range :=
  corners.range?.bind fun r => r.clip g.bounds.1 g.bounds.2

/-- The numbers in a range, row by row; cells without one are passed over. -/
def numbers (g : Grid) (corners : Corners) : List Number :=
  match g.clipped corners with
  | some r => r.cells.filterMap g.numberAt?
  | none => []

/-- The number of an operand; zero when it has none. -/
def number (g : Grid) : Operand → Number
  | .reference r => (r.address?.bind g.numberAt?).getD (Number.zero false)
  | .number x => x
  | .invalid _ => Number.zero false

/-- The value of what a cell's text is. -/
def valueOf (g : Grid) : Formula → Value
  | .literal t => .text t
  | .number x => .number x
  | .aggregate f corners => .number (f.apply (g.numbers corners))
  | .binary op left right => op.apply (g.number left) (g.number right)

/-- The value of a cell's text. -/
def value (g : Grid) (text : String) : Value :=
  match Formula.ofText text with
  | .ok formula => g.valueOf formula
  | .error _ => .fault .invalid

/-- The text shown for a cell's text. -/
def shown (g : Grid) (text : String) : String :=
  (g.value text).shown

end Grid

end Worksheet
