import Worksheet.Address.Column
import Worksheet.Text.Blank

/-!
# A1 Notation

Reading and printing addresses as column letters followed by a row number
that is counted from one.

A reader sees past white space around the address and past a `$` in front of
the letters and in front of the row number. The parts are judged from left to
right, so a column beyond the limit is reported before anything is said about
the row.

## Main definitions

* `Address.dropMark`: The text after an optional `$`.
* `Address.rowOfDigits`: The row index written in decimal digits.
* `Address.ofA1`: The address a text names.
* `Address.a1`: The text of an address.
-/

namespace Worksheet

namespace Address

/-- The text after an optional `$`. -/
def dropMark : List Char → List Char
  | '$' :: rest => rest
  | cs => cs

/-- The row index written as decimal digits in the address `text`. A number
    too long for a word is reported as the largest one. -/
def rowOfDigits (text : String) (digits : List Char) : Except Address.Error UInt32 :=
  let n := Numeral.decimalValue digits
  if UInt64.size ≤ n then
    .error (.outOfBounds (.row Numeral.largest))
  else if n = 0 then
    .error (.zeroRow text)
  else if n ≤ maxRows.toNat then
    .ok (UInt32.ofNat (n - 1))
  else
    .error (.outOfBounds (.row (UInt64.ofNat (n - 1))))

/-- The address that characters free of surrounding white space name. -/
def ofTrimmed (cs : List Char) : Except Address.Error Address :=
  let text := String.ofList cs
  let body := dropMark cs
  let letters := body.takeWhile Char.isAlpha
  let digits := dropMark (body.dropWhile Char.isAlpha)
  if cs.isEmpty then
    .error .empty
  else if letters.isEmpty then
    .error (.noColumnLetters text)
  else do
    let col ← Column.ofLetters letters
    if digits.isEmpty then
      .error (.noRowNumber text)
    else if digits.all Char.isDigit then
      let row ← rowOfDigits text digits
      .ok ⟨row, col⟩
    else
      .error (.badRowNumber text)

/-- The address a text names in A1 notation. -/
def ofA1 (text : String) : Except Address.Error Address :=
  ofTrimmed (Text.trim Text.isWhite text.toList)

/-- The characters of an address in A1 notation. -/
def a1Chars (a : Address) : List Char :=
  Column.letters a.col ++ Nat.toDigits 10 (a.row.toNat + 1)

/-- The text of an address in A1 notation. -/
def a1 (a : Address) : String :=
  String.ofList a.a1Chars

end Address

end Worksheet
