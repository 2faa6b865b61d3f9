import Worksheet.Address.Basic
import Worksheet.Number.Digits

/-!
# Column Letters

Columns are written in letters: `A` to `Z`, then `AA`, `AB` and so on. This is
the numeral system in radix 26 that has no zero: its digits run from one to
twenty-six, so every positive number has exactly one numeral.

Numbers of columns are counted from one and kept in a word of 64 bits, where
letters without end stay at the largest word. An index is a number of a column
less one, and reading an index checks the limit of the axis.

## Main definitions

* `letterValue`: The digit a letter stands for, in either case.
* `number?`: The number of the column some letters name.
* `ofLetters`: The index of the column some letters name.
* `numeral`: The letters of a positive number.
* `letters`: The letters of a column index.
-/

namespace Worksheet

namespace Column

/-- The digit a letter stands for: one for `A` or `a`. -/
def letterValue (c : Char) : Nat :=
  c.toUpper.toNat - 'A'.toNat + 1

/-- The number of the column the letters name, counted from one. Nothing but
    letters names a column, and no letters name none. -/
def number? (cs : List Char) : Option UInt64 :=
  if cs ≠ [] ∧ cs.all Char.isAlpha then
    some (Numeral.saturated 26 (cs.map letterValue))
  else
    none

/-- The index of the column the letters name, counted from zero. -/
def ofLetters (cs : List Char) : Except Address.Error UInt32 :=
  match number? cs with
  | none => .error (.badColumnLetters (String.ofList cs))
  | some n =>
    let index := n - 1
    if index < maxCols.toUInt64 then
      .ok index.toUInt32
    else
      .error (.outOfBounds (.column index))

/-- The letters of a number, with nothing for zero. -/
def numeral (n : Nat) : List Char :=
  match n with
  | 0 => []
  | n + 1 => numeral (n / 26) ++ [Char.ofNat ('A'.toNat + n % 26)]
  termination_by n
  decreasing_by exact Nat.lt_succ_of_le (Nat.div_le_self n 26)

/-- The letters of a column index. -/
def letters (index : UInt32) : List Char :=
  numeral (index.toNat + 1)

end Column

end Worksheet
