import Worksheet.Number.Basic

/-!
# Bit Patterns

The interchange encoding of double precision: a sign bit, eleven bits of
exponent and fifty-two bits of fraction.

The exponent field counts how far the significand is shifted. Field zero holds
the numbers without a leading one, and the next field the same spacing with
one; the largest field is left for the infinities and for what is not a
number, which has many patterns and is written with one of them.

## Main definitions

* `Number.ofBits`: The number with a bit pattern.
* `Number.toBits`: The bit pattern of a number.
-/

namespace Worksheet

namespace Number

/-- The number with a bit pattern. -/
def ofBits (bits : UInt64) : Number :=
  let negative := decide (Nat.pow 2 63 ≤ bits.toNat)
  let exponent := bits.toNat / Nat.pow 2 52 % Nat.pow 2 11
  let fraction := bits.toNat % Nat.pow 2 52
  if exponent = Nat.pow 2 11 - 1 then
    if fraction = 0 then .infinity negative else .nan
  else if exponent = 0 then
    ofUnits negative fraction
  else
    ofUnits negative ((Nat.pow 2 52 + fraction) * Nat.pow 2 (exponent - 1))

/-- The exponent and fraction fields of a number of units, as one number. A
    significand with its leading one in place carries into the field. -/
def magnitudeBits (units : Nat) : Nat :=
  let shift := units.log2 - 52
  shift * Nat.pow 2 52 + units / Nat.pow 2 shift

/-- The bit pattern of a number. -/
def toBits : Number → UInt64
  | .nan => 0x7FF8000000000000
  | .infinity negative => signBit negative + 0x7FF0000000000000
  | .finite negative m => signBit negative + UInt64.ofNat (magnitudeBits m.units)
where
  /-- The sign bit in its place. -/
  signBit (negative : Bool) : UInt64 :=
    if negative then 0x8000000000000000 else 0

end Number

end Worksheet
