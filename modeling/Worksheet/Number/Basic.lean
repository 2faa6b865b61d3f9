import Worksheet.Number.Rounding

/-!
# Numbers

The numbers a sheet computes with: double precision with both infinities, two
zeros and one value that is not a number.

A finite number is a sign and a magnitude. A magnitude counts units of
`2 ^ -1074` and is representable, so every value of the type is a double and
every double has one value. Each operation is computed exactly on units and
rounded once by `ofQuotient`, which is the only place where precision is lost
and the only way to leave the finite range by rounding.

## Main definitions

* `Magnitude`: A representable number of units.
* `Number`: A number in double precision.
* `Number.ofQuotient`, `Number.ofUnits`: The number nearest to a quotient of
  units, or to a whole number of them.
* `Number.ofNat`: The number nearest to a natural number.
* `Number.add`, `Number.neg`, `Number.mul`, `Number.div`: Arithmetic.
* `Number.lt`: The order of numbers, in which both zeros are equal.
* `Number.smaller`, `Number.larger`: The extrema of two numbers, which pass
  over what is not a number.
-/

namespace Worksheet

/-- A finite magnitude, counted in units of `2 ^ -1074`. -/
structure Magnitude where
  /-- The number of units. -/
  units : Nat
  /-- Double precision holds it exactly. -/
  representable : Rounding.Representable units
  deriving DecidableEq

/-- A number in double precision. -/
inductive Number where
  /-- The result of an operation that has none. -/
  | nan
  /-- Beyond every finite number. -/
  | infinity (negative : Bool)
  /-- A magnitude with a sign; zero has both signs. -/
  | finite (negative : Bool) (magnitude : Magnitude)
  deriving DecidableEq

namespace Magnitude

/-- No units at all. -/
def zero : Magnitude :=
  ⟨0, Rounding.unitLimit_pos, 0, 0, Nat.zero_le _, rfl⟩

instance : Inhabited Magnitude :=
  ⟨zero⟩

end Magnitude

namespace Number

/-- The zero of a sign. -/
def zero (negative : Bool) : Number :=
  .finite negative .zero

instance : Inhabited Number :=
  ⟨zero false⟩

/-- The number nearest to a quotient of units, with the given sign. What
    rounds to the limit or beyond it is infinite. -/
def ofQuotient (negative : Bool) (num den : Nat) (hden : 0 < den) : Number :=
  if h : Rounding.roundUnits num den < Rounding.unitLimit then
    .finite negative ⟨Rounding.roundUnits num den, Rounding.representable_roundUnits hden h⟩
  else
    .infinity negative

/-- The number nearest to a whole number of units. -/
def ofUnits (negative : Bool) (units : Nat) : Number :=
  ofQuotient negative units 1 Nat.one_pos

/-- The number nearest to a natural number. -/
def ofNat (n : Nat) : Number :=
  ofUnits false (n * Nat.pow 2 Rounding.unitBits)

/-- The number is neither infinite nor the one that is not a number. -/
def isFinite : Number → Bool
  | .finite .. => true
  | _ => false

/-- The number is one of the two zeros. -/
def isZero : Number → Bool
  | .finite _ m => m.units = 0
  | _ => false

/-- Signed units of a finite number. -/
def signedUnits (negative : Bool) (m : Magnitude) : Int :=
  if negative then -(m.units : Int) else m.units

/-- The number with the opposite sign. -/
def neg : Number → Number
  | .nan => .nan
  | .infinity negative => .infinity (!negative)
  | .finite negative m => .finite (!negative) m

/-- The sum. Opposite infinities have none; a sum that vanishes is the
    positive zero, unless both terms are negative zeros. -/
def add : Number → Number → Number
  | .nan, _ => .nan
  | _, .nan => .nan
  | .infinity a, .infinity b => if a = b then .infinity a else .nan
  | .infinity a, .finite .. => .infinity a
  | .finite .., .infinity b => .infinity b
  | .finite a m, .finite b n =>
    let sum := signedUnits a m + signedUnits b n
    if sum = 0 then zero (a && b) else ofUnits (decide (sum < 0)) sum.natAbs

/-- The difference. -/
def sub (x y : Number) : Number :=
  add x y.neg

/-- The product. Zero times infinity has none. -/
def mul : Number → Number → Number
  | .nan, _ => .nan
  | _, .nan => .nan
  | .infinity a, .infinity b => .infinity (a != b)
  | .infinity a, .finite b n => if n.units = 0 then .nan else .infinity (a != b)
  | .finite a m, .infinity b => if m.units = 0 then .nan else .infinity (a != b)
  | .finite a m, .finite b n =>
    ofQuotient (a != b) (m.units * n.units) (Nat.pow 2 Rounding.unitBits) (Nat.two_pow_pos _)

/-- The quotient. Zero by zero and infinity by infinity have none, and any
    other number by zero is infinite. -/
def div : Number → Number → Number
  | .nan, _ => .nan
  | _, .nan => .nan
  | .infinity _, .infinity _ => .nan
  | .infinity a, .finite b _ => .infinity (a != b)
  | .finite a _, .infinity b => zero (a != b)
  | .finite a m, .finite b n =>
    if h : n.units = 0 then
      if m.units = 0 then .nan else .infinity (a != b)
    else
      ofQuotient (a != b) (m.units * Nat.pow 2 Rounding.unitBits) n.units (Nat.pos_of_ne_zero h)

instance : Add Number := ⟨add⟩
instance : Neg Number := ⟨neg⟩
instance : Sub Number := ⟨sub⟩
instance : Mul Number := ⟨mul⟩
instance : Div Number := ⟨div⟩

/-- The first number is less than the second. Nothing is less than what is not
    a number, nor greater, and the zeros are equal. -/
def lt : Number → Number → Bool
  | .nan, _ => false
  | _, .nan => false
  | .infinity a, .infinity b => a && !b
  | .infinity a, .finite .. => a
  | .finite .., .infinity b => !b
  | .finite a m, .finite b n => signedUnits a m < signedUnits b n

/-- The smaller of two numbers, the second one when neither is smaller. What is
    not a number gives way to the other. -/
def smaller (x y : Number) : Number :=
  if y = .nan ∨ x.lt y then x else y

/-- The larger of two numbers, the second one when neither is larger. What is
    not a number gives way to the other. -/
def larger (x y : Number) : Number :=
  if y = .nan ∨ y.lt x then x else y

end Number

end Worksheet
