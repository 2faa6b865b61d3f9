import Worksheet.Number.Decimal
import Worksheet.Number.Digits
import Worksheet.Text.Blank

/-!
# Reading Numbers

The number a cell's text stands for, if it stands for one.

Blanks around the text do not count, and neither do commas anywhere in it,
since they separate thousands. What is left is a decimal literal, a whole
number in radix sixteen, eight or two behind `0x`, `0o` or `0b`, or a word that
spells an infinity or the lack of a number. Text that is not blank but consists
of commas reads as zero. Only finite numbers count in the end, so neither a
literal that is too large nor a word is read.

A radix literal is read digit by digit, each step rounded to double
precision; a decimal literal is rounded once.

## Main definitions

* `Number.radixOfMark?`: The radix a letter behind a zero announces.
* `Number.digitOfRadix?`: The value of a digit.
* `Number.radixLiteral?`: The number of a literal with a radix.
* `Number.splitSign`: The sign in front of a literal.
* `Number.exponentPart?`: The exponent at the end of a literal.
* `Number.decimalLiteral?`: The number of a decimal literal.
* `Number.spelledLiteral?`: The number that a word spells.
* `Number.ofText?`: The number a cell's text stands for.
-/

namespace Worksheet

namespace Number

/-- The radix that a letter behind a zero announces. -/
def radixOfMark? (c : Char) : Option Nat :=
  if c == 'x' || c == 'X' then some 16
  else if c == 'o' || c == 'O' then some 8
  else if c == 'b' || c == 'B' then some 2
  else none

/-- The value of a digit in a radix of at most sixteen. -/
def digitOfRadix? (radix : Nat) (c : Char) : Option Nat :=
  let value :=
    if c.isDigit then c.toNat - '0'.toNat
    else if 'a' ≤ c ∧ c ≤ 'f' then c.toNat - 'a'.toNat + 10
    else if 'A' ≤ c ∧ c ≤ 'F' then c.toNat - 'A'.toNat + 10
    else radix
  if value < radix then some value else none

/-- One more digit behind a number, computed in double precision. -/
def appendDigit (radix : Nat) (x : Number) (digit : Nat) : Number :=
  x * ofNat radix + ofNat digit

/-- The number of a literal with a radix: a zero, the letter of the radix and
    at least one digit. -/
def radixLiteral? : List Char → Option Number
  | '0' :: mark :: digits => do
    let radix ← radixOfMark? mark
    let values ← digits.mapM (digitOfRadix? radix)
    if values.isEmpty then none else some (values.foldl (appendDigit radix) (zero false))
  | _ => none

/-- The sign in front of a literal, true for a minus, and what follows it. -/
def splitSign : List Char → Bool × List Char
  | '-' :: rest => (true, rest)
  | '+' :: rest => (false, rest)
  | cs => (false, cs)

/-- The exponent at the end of a literal: nothing, or an `e`, an optional sign
    and at least one digit. -/
def exponentPart? : List Char → Option Int
  | [] => some 0
  | e :: rest =>
    let (negative, digits) := splitSign rest
    if (e == 'e' || e == 'E') && !digits.isEmpty && digits.all Char.isDigit then
      let n : Int := Numeral.decimalValue digits
      some (if negative then -n else n)
    else
      none

/-- The number of a decimal literal: an optional sign, digits with an optional
    point and at least one digit on either side of it, and an exponent. -/
def decimalLiteral? (cs : List Char) : Option Number :=
  let (negative, unsigned) := splitSign cs
  let whole := unsigned.takeWhile Char.isDigit
  let afterWhole := unsigned.dropWhile Char.isDigit
  let (fraction, afterFraction) :=
    match afterWhole with
    | '.' :: rest => (rest.takeWhile Char.isDigit, rest.dropWhile Char.isDigit)
    | rest => ([], rest)
  if whole.isEmpty && fraction.isEmpty then
    none
  else
    (exponentPart? afterFraction).map fun exponent =>
      ofDecimal negative ⟨Numeral.decimalValue (whole ++ fraction), exponent - fraction.length⟩

/-- What a word spells, with letters of either case behind an optional sign: an
    infinity, or that there is no number. -/
def spelledLiteral? (cs : List Char) : Option Number :=
  let (negative, word) := splitSign cs
  let letters := word.map Char.toUpper
  if letters = "INF".toList ∨ letters = "INFINITY".toList then some (infinity negative)
  else if letters = "NAN".toList then some nan
  else none

/-- The finite number that characters without blanks at their ends and without
    commas stand for. -/
def literal? (cs : List Char) : Option Number :=
  (radixLiteral? cs <|> decimalLiteral? cs <|> spelledLiteral? cs).filter isFinite

/-- The number that characters stand for. -/
def ofChars? (cs : List Char) : Option Number :=
  let trimmed := Text.trim Text.isBlank cs
  let cleaned := Text.trim Text.isBlank (trimmed.filter (· != ','))
  if trimmed.isEmpty then none
  else if cleaned.isEmpty then some (zero false)
  else literal? cleaned

/-- The number a cell's text stands for. -/
def ofText? (text : String) : Option Number :=
  ofChars? text.toList

end Number

end Worksheet
