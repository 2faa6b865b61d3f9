/-!
# Positional Numerals

Reading digits into numbers, most significant digit first.

A numeral denotes a natural number without bound, `value`. Column letters and
row numbers in formulas are kept in words of 64 bits, and a numeral too long
for one stays at the largest word instead of wrapping around: `saturated`
reads such a numeral digit by digit, and once the largest word is reached no
further digit leaves it.

## Main definitions

* `value`: The number a list of digits denotes.
* `largest`: The largest word.
* `saturate`: A number as a word, or the largest word.
* `saturated`: A list of digits read into a word.
* `decimalValue`: The value of a list of decimal digit characters.
-/

namespace Worksheet

namespace Numeral

/-- The number denoted by digits in the given radix, most significant first.
    A digit may be as large as the radix, as in column letters. -/
def value (radix : Nat) (digits : List Nat) : Nat :=
  digits.foldl (fun acc d => acc * radix + d) 0

/-- The largest word of 64 bits. -/
def largest : UInt64 := 0xFFFFFFFFFFFFFFFF

/-- The number as a word, or the largest word when it does not fit. -/
def saturate (n : Nat) : UInt64 :=
  if n < UInt64.size then UInt64.ofNat n else largest

/-- The digits read into a word one at a time; the largest word stands for
    everything that does not fit. -/
def saturated (radix : Nat) (digits : List Nat) : UInt64 :=
  digits.foldl (fun acc d => saturate (acc.toNat * radix + d)) 0

/-- The value of a decimal digit character. -/
def decimalDigit (c : Char) : Nat :=
  c.toNat - '0'.toNat

/-- The number denoted by decimal digit characters. -/
def decimalValue (cs : List Char) : Nat :=
  value 10 (cs.map decimalDigit)

end Numeral

end Worksheet
