import Worksheet.Formula.Reference
import Worksheet.Number.Basic

/-!
# Formulas

What a cell's text can be: a text to show as it is, or one of three kinds of
formula.

A formula is a number, an aggregate of the numbers in a range, or one
arithmetic operation on two operands. There is no nesting. An operand that is
neither a reference nor a number is kept, since it does not make the formula
invalid; it counts as zero.

## Main definitions

* `Aggregate`: The functions of a range.
* `Operator`: The arithmetic operations.
* `Operand`: One side of an operation.
* `Formula`: What a cell's text is.
* `Formula.Error`: Why a text that starts like a formula is none.
-/

namespace Worksheet

/-- A function of the numbers in a range. -/
inductive Aggregate where
  /-- The sum. -/
  | sum
  /-- The arithmetic mean. -/
  | avg
  /-- The least number. -/
  | min
  /-- The greatest number. -/
  | max
  deriving DecidableEq, Repr

namespace Aggregate

/-- The name of a function in capital letters. -/
def name : Aggregate → String
  | sum => "SUM"
  | avg => "AVG"
  | min => "MIN"
  | max => "MAX"

/-- The function with a name, in letters of either case. -/
def ofName? (cs : List Char) : Option Aggregate :=
  [sum, avg, min, max].find? fun f => f.name.toList == cs.map Char.toUpper

end Aggregate

/-- An arithmetic operation. -/
inductive Operator where
  /-- Addition. -/
  | add
  /-- Subtraction. -/
  | sub
  /-- Multiplication. -/
  | mul
  /-- Division. -/
  | div
  deriving DecidableEq, Repr

namespace Operator

/-- The sign of an operation. -/
def sign : Operator → Char
  | add => '+'
  | sub => '-'
  | mul => '*'
  | div => '/'

/-- The operation with a sign. -/
def ofSign? : Char → Option Operator
  | '+' => some add
  | '-' => some sub
  | '*' => some mul
  | '/' => some div
  | _ => none

end Operator

/-- One side of an operation. -/
inductive Operand where
  /-- The number in a cell. -/
  | reference (r : Reference)
  /-- A number. -/
  | number (x : Number)
  /-- Anything else, which counts as zero. -/
  | invalid (text : String)
  deriving DecidableEq

/-- What a cell's text is. -/
inductive Formula where
  /-- No formula: a text to show as it is. -/
  | literal (text : String)
  /-- A number. -/
  | number (x : Number)
  /-- A function of the numbers between two corners. -/
  | aggregate (f : Aggregate) (corners : Corners)
  /-- An operation on two operands. -/
  | binary (op : Operator) (left right : Operand)
  deriving DecidableEq

namespace Formula

/-- Why a text that starts like a formula is none. -/
inductive Error where
  /-- Nothing follows the equals sign. -/
  | empty
  /-- What follows it has none of the forms of a formula. -/
  | unrecognized (body : String)
  /-- The argument of an aggregate is not a range. -/
  | malformedRange (argument : String)
  /-- What follows it looks like a call of a function that does not exist. -/
  | unknownFunction (name : String)
  deriving DecidableEq, Repr

/-- What is reported for a text that is no formula. -/
def Error.message : Error → String
  | .empty => "Parse error: empty formula"
  | .unrecognized body => s!"Parse error: unrecognized expression '{body}'"
  | .malformedRange argument => s!"Malformed range: '{argument}'"
  | .unknownFunction name => s!"Unknown function: {name}"

end Formula

end Worksheet
