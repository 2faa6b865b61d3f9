import Worksheet.Json.Basic
import Worksheet.Number.Literal

/-!
# Numbers in JSON

The value that a number in a JSON text stands for.

A number without a point and without an exponent is whole, and it is kept as
it is when it fits a word of 64 bits, with a sign or without. The whole number
zero has no sign, so a negative zero is not kept like that.

Every other number is computed in double precision. As many of its digits as
fit a word, from the first one on, are taken for one whole number, which is
then multiplied or divided by a power of ten. Each of these steps is rounded,
so the result may lie a little beside the nearest number. A number that is too
large for double precision has no value.

## Main definitions

* `Json.fitting`: The digits that fit a word.
* `Json.scaled`: A number times a power of ten.
* `Json.Literal`: The parts of a number in a text.
* `Json.Literal.ofChars?`: A number in a text, taken apart.
* `Json.Literal.value?`: The value of a number.
-/

namespace Worksheet

namespace Json

/-- A word followed by as many digits as still fit, and the number of digits
    left over from the first one on that does not fit. -/
def fitting (start : Nat) : List Char → Nat × Nat
  | [] => (start, 0)
  | c :: cs =>
    let next := start * 10 + Numeral.decimalDigit c
    if next < UInt64.size then fitting next cs else (start, cs.length + 1)

/-- The largest exponent of a power of ten in double precision. -/
def largestPower : Nat := 308

/-- A power of ten. -/
def tenPower (k : Nat) : Number :=
  Number.ofDecimal false ⟨1, k⟩

/-- A number divided by a power of ten, in steps when double precision does not
    have the power. -/
def divided (x : Number) (k : Nat) : Number :=
  if k ≤ largestPower then x / tenPower k
  else if x.isZero then x
  else divided (x / tenPower largestPower) (k - largestPower)
termination_by k
decreasing_by simp only [largestPower] at *; omega

/-- A number times a power of ten. Zero stays zero even when double precision
    does not have the power. -/
def scaled (x : Number) : Int → Number
  | .ofNat k => if x.isZero then x else x * tenPower k
  | .negSucc k => divided x (k + 1)

/-- The parts of a number in a text. -/
structure Literal where
  /-- A minus stands in front. -/
  negative : Bool
  /-- The digits in front of the point. -/
  whole : List Char
  /-- The digits behind the point; none without a point. -/
  fraction : List Char
  /-- The exponent; none when it is not given. -/
  exponent : Option Int
  deriving DecidableEq, Repr

namespace Literal

/-- The digits in front of a point: at least one, and no zero in front of
    others. -/
def isWhole : List Char → Bool
  | [] => false
  | [_] => true
  | c :: _ => c != '0'

/-- The digits behind a point, of which there is at least one, and what follows
    them. Without a point there are none. -/
def splitFraction? : List Char → Option (List Char × List Char)
  | '.' :: rest =>
    let digits := rest.takeWhile Char.isDigit
    if digits.isEmpty then none else some (digits, rest.dropWhile Char.isDigit)
  | rest => some ([], rest)

/-- A number in a text, taken apart. -/
def ofChars? (cs : List Char) : Option Literal := do
  let (negative, unsigned) :=
    match cs with
    | '-' :: rest => (true, rest)
    | rest => (false, rest)
  let whole := unsigned.takeWhile Char.isDigit
  if isWhole whole then
    let (fraction, rest) ← splitFraction? (unsigned.dropWhile Char.isDigit)
    let exponent ← Number.exponentPart? rest
    return ⟨negative, whole, fraction, if rest.isEmpty then none else some exponent⟩
  else
    none

/-- The whole number that a literal is kept as. -/
def integer? (l : Literal) : Option Int :=
  let size := Numeral.decimalValue l.whole
  if !l.fraction.isEmpty || l.exponent.isSome then none
  else if l.negative then if 0 < size ∧ size ≤ Nat.pow 2 63 then some (-(size : Int)) else none
  else if size < Nat.pow 2 64 then some size
  else none

/-- The number computed from a literal in double precision. -/
def real (l : Literal) : Number :=
  let (start, beyond) := fitting 0 l.whole
  let (digits, behind) := fitting start l.fraction
  let places : Int := l.fraction.length - behind
  let size := scaled (Number.ofNat digits) (l.exponent.getD 0 + beyond - places)
  if l.negative then -size else size

/-- The value of a number. -/
def value? (l : Literal) : Option Json :=
  match l.integer? with
  | some k => some (.integer k)
  | none => if l.real.isFinite then some (.real l.real) else none

end Literal

end Json

end Worksheet
