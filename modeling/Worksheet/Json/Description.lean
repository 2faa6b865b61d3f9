import Worksheet.Json.Basic
import Worksheet.Number.Notation
import Worksheet.Text.Hidden

/-!
# Describing JSON Values

How a JSON value is named in a message that says it is not the expected one.

Numbers stand in backquotes. A number that is not whole always shows a point
or an exponent, so that it cannot be taken for a whole one. It is written out
from `10 ^ -5` up to below `10 ^ 16` and else shows its exponent with a sign;
of two equally near shortest decimals the even one is shown. A text is shown
in quotes with the characters escaped that would not be seen in it.

## Main definitions

* `escapeChar`: A character as it is shown in a quoted text.
* `realMagnitude`, `realText`: The text of a number that is not whole.
* `Json.description`: How a value is named.
-/

namespace Worksheet

namespace Json

/-- A character as it is shown in a quoted text. -/
def escapeChar (c : Char) : List Char :=
  if c == '\x00' then ['\\', '0']
  else if c == '\t' then ['\\', 't']
  else if c == '\n' then ['\\', 'n']
  else if c == '\r' then ['\\', 'r']
  else if c == '"' then ['\\', '"']
  else if c == '\\' then ['\\', '\\']
  else if Text.isHidden c then ['\\', 'u', '\x7b'] ++ Nat.toDigits 16 c.toNat ++ ['\x7d']
  else [c]

/-- The text of a positive magnitude that is not to be taken for whole. -/
def realMagnitude (m : Magnitude) : List Char :=
  let (digits, point) := Number.significantDigits (Decimal.shortest .even m)
  if digits.length ≤ point ∧ point ≤ 16 then
    Number.positional digits point ++ ['.', '0']
  else if -5 < point ∧ point ≤ 16 then
    Number.positional digits point
  else
    Number.scientific digits point

/-- The text of a number that is not to be taken for whole. -/
def realText : Number → String
  | .finite negative m =>
    let sign := if negative then ['-'] else []
    String.ofList (sign ++ if m.units = 0 then ['0', '.', '0'] else realMagnitude m)
  | x => x.text

/-- How a value is named in a message. -/
def description : Json → String
  | .null => "null"
  | .bool b => s!"boolean `{b}`"
  | .integer n => s!"integer `{n}`"
  | .real x => s!"floating point `{realText x}`"
  | .text t => "string \"" ++ String.ofList (t.toList.flatMap escapeChar) ++ "\""
  | .array _ => "sequence"
  | .object _ => "map"

end Json

end Worksheet
