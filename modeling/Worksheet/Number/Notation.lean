import Worksheet.Number.Decimal
import Worksheet.Text.Blank

/-!
# Printing Numbers

The text a number is shown with.

A finite number is shown by its shortest decimal, the one above where two are
equally near. From a millionth up to below `10 ^ 21` it is written out with a
point where one is needed; smaller and larger numbers are written with one
digit in front of the point and the exponent of ten behind an `e`, always with
a sign. Both zeros are shown alike.

## Main definitions

* `Number.positionalFrom`, `Number.positionalBelow`: Where numbers are
  written out.
* `Number.significantDigits`: The digits of a decimal and where its point is.
* `Number.positional`, `Number.scientific`: The two ways of writing.
* `Number.text`: The text a number is shown with.
-/

namespace Worksheet

namespace Number

/-- The least magnitude that is written out. -/
def positionalFrom : Number :=
  ofDecimal false ⟨1, -6⟩

/-- The least magnitude that is too large to be written out. -/
def positionalBelow : Number :=
  ofDecimal false ⟨1, 21⟩

/-- The digits of a decimal without the zeros at its end, and the number of
    them that stand in front of the point; that number may be negative or go
    past the last digit. -/
def significantDigits (d : Decimal) : List Char × Int :=
  let digits := Nat.toDigits 10 d.digits
  (Text.trimRight (· == '0') digits, digits.length + d.exponent)

/-- Digits written out with the point after the first `point` of them. -/
def positional (digits : List Char) (point : Int) : List Char :=
  if point ≤ 0 then
    '0' :: '.' :: List.replicate point.natAbs '0' ++ digits
  else if digits.length ≤ point.toNat then
    digits ++ List.replicate (point.toNat - digits.length) '0'
  else
    digits.take point.toNat ++ '.' :: digits.drop point.toNat

/-- Digits written with one of them in front of the point, and the exponent
    of ten. -/
def scientific (digits : List Char) (point : Int) : List Char :=
  let exponent := point - 1
  let sign := if exponent < 0 then '-' else '+'
  let fraction := if digits.length ≤ 1 then [] else '.' :: digits.drop 1
  digits.take 1 ++ fraction ++ 'e' :: sign :: Nat.toDigits 10 exponent.natAbs

/-- The characters of a positive magnitude. -/
def magnitudeChars (m : Magnitude) : List Char :=
  let (digits, point) := significantDigits (Decimal.shortest .above m)
  let value := Number.finite false m
  if !value.lt positionalFrom && value.lt positionalBelow then
    positional digits point
  else
    scientific digits point

/-- The characters a number is shown with. -/
def chars : Number → List Char
  | .nan => "NaN".toList
  | .infinity false => "Infinity".toList
  | .infinity true => "-Infinity".toList
  | .finite negative m =>
    if m.units = 0 then ['0']
    else if negative then '-' :: magnitudeChars m
    else magnitudeChars m

/-- The text a number is shown with. -/
def text (x : Number) : String :=
  String.ofList x.chars

end Number

end Worksheet
