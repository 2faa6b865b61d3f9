import Worksheet.Address.Basic

/-!
# Grids

What formulas read: the texts of cells, seen from outside.

A grid has a text at every address, the empty text where it holds nothing. It
may know its size, and then ranges are read only inside it.

## Main definitions

* `Grid`: The texts of cells and, if known, the size they lie in.
-/

namespace Worksheet

/-- The texts of cells as formulas read them. -/
structure Grid where
  /-- The text of a cell; empty when the cell holds nothing. -/
  text : Address → String
  /-- The numbers of rows and columns that ranges are read in, if bounded. -/
  size : Option (UInt32 × UInt32)

end Worksheet
