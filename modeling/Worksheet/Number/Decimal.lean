import Worksheet.Number.Basic

/-!
# Decimals

Numbers from decimals, and the shortest decimal of a number.

A decimal is a whole number of some power of ten. Reading one finds the
nearest number. Many decimals read as the same number, and the shortest of
them is the one to show: of all decimals that read back as a magnitude it has
the fewest digits, and among those it is the nearest. Two may be equally near,
one below the magnitude and one above; which of them is taken is up to the
format.

A magnitude is itself a decimal, with `10 ^ -1074` as its power of ten, so the
search has an end. It asks at each place, from the leading digit on, whether
one of the two multiples around the magnitude reads back.

## Main definitions

* `Decimal`: A whole number of a power of ten.
* `Halfway`: Which of two equally near decimals is taken.
* `Number.ofDecimal`: The number nearest to a decimal.
* `Decimal.atPlace?`: The decimal that ends at a place and reads back.
* `Decimal.shortest`: The shortest decimal of a magnitude.
-/

namespace Worksheet

/-- A whole number of a power of ten. -/
structure Decimal where
  /-- The whole number. -/
  digits : Nat
  /-- The exponent of the power of ten. -/
  exponent : Int
  deriving DecidableEq, Repr

/-- Which of two equally near decimals is taken. -/
inductive Halfway where
  /-- The one above. -/
  | above
  /-- The one whose last digit is even. -/
  | even
  deriving DecidableEq, Repr

/-- The decimal above is taken, when the one below has these digits. -/
def Halfway.goesUp (halfway : Halfway) (below : Nat) : Bool :=
  match halfway with
  | above => true
  | even => below % 2 = 1

namespace Number

/-- An exponent brought near zero. Beyond these bounds a decimal with these
    digits is infinite or zero whatever its exponent is. -/
def boundedExponent (digits : Nat) (exponent : Int) : Int :=
  max (-(digits.log2 + 400 : Nat)) (min 400 exponent)

/-- The number nearest to a decimal, with the given sign. -/
def ofDecimal (negative : Bool) (d : Decimal) : Number :=
  match boundedExponent d.digits d.exponent with
  | .ofNat k => ofUnits negative (d.digits * Nat.pow 10 k * Nat.pow 2 Rounding.unitBits)
  | .negSucc k =>
    ofQuotient negative (d.digits * Nat.pow 2 Rounding.unitBits) (Nat.pow 10 (k + 1))
      (Nat.pow_pos (by decide))

end Number

namespace Decimal

/-- The magnitude as a whole number of `10 ^ -1074`. -/
def exactDigits (units : Nat) : Nat :=
  units * Nat.pow 5 Rounding.unitBits

/-- A whole number of `10 ^ -1074` rounds to the magnitude. -/
def readsBack (units digits : Nat) : Bool :=
  Rounding.roundUnits digits (Nat.pow 5 Rounding.unitBits) = units

/-- The next multiple above is taken over the one below, which leaves a rest of
    the magnitude. -/
def takesAbove (halfway : Halfway) (step below rest : Nat) : Bool :=
  step < 2 * rest || 2 * rest = step && halfway.goesUp below

/-- The multiple to take, of one below and the next one above: the one that
    reads back, or the nearer one when both do. -/
def choose (nearerAbove : Bool) (below : Nat) (readsBelow readsAbove : Bool) : Option Nat :=
  match readsBelow, readsAbove with
  | true, true => some (if nearerAbove then below + 1 else below)
  | true, false => some below
  | false, true => some (below + 1)
  | false, false => none

/-- The multiple of `10 ^ place`, counted in `10 ^ -1074`, that lies next to
    the magnitude and reads back: the nearer of the two around it when both
    do. -/
def atPlace? (halfway : Halfway) (units place : Nat) : Option Nat :=
  let step := Nat.pow 10 place
  let below := exactDigits units / step
  let rest := exactDigits units % step
  choose (takesAbove halfway step below rest) below
    (readsBack units (below * step)) (readsBack units ((below + 1) * step))

/-- The first decimal to read back as the search moves right from a place. At
    the last place the magnitude is its own decimal. -/
def search (halfway : Halfway) (units : Nat) : Nat → Decimal
  | 0 => ⟨exactDigits units, -(Rounding.unitBits : Int)⟩
  | place + 1 =>
    ((atPlace? halfway units (place + 1)).map fun digits =>
      ⟨digits, (place + 1 : Int) - Rounding.unitBits⟩).getD (search halfway units place)

/-- The number of decimal digits of a natural number. -/
def length (n : Nat) : Nat :=
  (Nat.repr n).length

/-- The shortest decimal that reads back as a magnitude. -/
def shortest (halfway : Halfway) (m : Magnitude) : Decimal :=
  search halfway m.units (length (exactDigits m.units) - 1)

end Decimal

end Worksheet
