/-!
# Rounding to Double Precision

The magnitudes that double precision can hold, and the nearest of them.

Every finite magnitude is a whole multiple of the least positive one, `2 ^
-1074`, which is called the unit here. Counted in units, double precision
holds the numbers that have at most 53 binary digits in front of a run of
zeros and lie below `unitLimit`. `roundUnits` takes a quotient of natural
numbers, counted in units, to the nearest number of that form; of two that are
equally near it takes the one with the even significand. Numbers that are too
large are rounded all the same, and the caller compares with the limit.

## Main definitions

* `unitBits`: The binary digits of one, counted in units.
* `limitBits`, `unitLimit`: The least number of units that is too large.
* `Representable`: The numbers of units double precision can hold.
* `nearestQuotient`: A quotient rounded to a whole number.
* `shift`: The number of zeros behind the significand.
* `roundUnits`: A quotient rounded to 53 binary digits.

## Theorems

* `nearestQuotient_le`: Rounding does not pass a whole bound.
* `le_significand_mul`: A significand has at most 53 binary digits.
* `representable_roundUnits`: What rounding gives below the limit is
  representable.
-/

namespace Worksheet

namespace Rounding

/-- The number one is this power of two, counted in units. -/
def unitBits : Nat := 1074

/-- The exponent of the least power of two that is too large, counted in
    units. -/
def limitBits : Nat := 2098

/-- The least number of units that is too large. -/
def unitLimit : Nat := Nat.pow 2 limitBits

theorem unitLimit_pos : 0 < unitLimit :=
  Nat.two_pow_pos limitBits

/-- The number of units is held exactly: at most 53 binary digits followed by
    zeros, below the limit. -/
def Representable (n : Nat) : Prop :=
  n < unitLimit ∧ ∃ m s, m ≤ Nat.pow 2 53 ∧ n = m * Nat.pow 2 s

/-- The quotient rounded to the nearest whole number, and halfway to the even
    one. -/
def nearestQuotient (num den : Nat) : Nat :=
  let q := num / den
  let r := num % den
  if 2 * r < den then q
  else if den < 2 * r then q + 1
  else q + q % 2

/-- The zeros behind the significand of a quotient with 53 binary digits or
    more. -/
def shift (num den : Nat) : Nat :=
  (num / den).log2 - 52

/-- The quotient rounded to the nearest number of 53 binary digits followed by
    zeros. -/
def roundUnits (num den : Nat) : Nat :=
  let scale := Nat.pow 2 (shift num den)
  nearestQuotient num (den * scale) * scale

/-- Rounding does not pass a whole bound: the bound itself is a candidate. -/
theorem nearestQuotient_le {num den b : Nat} (hden : 0 < den) (h : num ≤ b * den) :
    nearestQuotient num den ≤ b := by
  have hdiv : num / den * den + num % den = num := Nat.div_add_mod' num den
  have hmod : num % den < den := Nat.mod_lt num hden
  simp only [nearestQuotient]
  generalize num / den = q at *
  generalize num % den = r at *
  by_cases hq : q < b
  · split
    · omega
    · split <;> omega
  · -- The quotient is the bound, so nothing is left over.
    have hle : b * den ≤ q * den := Nat.mul_le_mul_right den (by omega)
    have hqb : q = b := Nat.eq_of_mul_eq_mul_right hden (by omega)
    rw [if_pos (by omega)]
    exact Nat.le_of_eq hqb

/-- The significand has at most 53 binary digits before it is rounded. -/
theorem le_significand_mul (num : Nat) {den : Nat} (hden : 0 < den) :
    num ≤ Nat.pow 2 53 * (den * Nat.pow 2 (shift num den)) := by
  have hq : num / den < Nat.pow 2 ((num / den).log2 + 1) := Nat.lt_log2_self
  have hle : (num / den).log2 + 1 ≤ 53 + shift num den := by
    unfold shift
    omega
  have hadd : Nat.pow 2 (53 + shift num den) = Nat.pow 2 53 * Nat.pow 2 (shift num den) :=
    Nat.pow_add 2 53 (shift num den)
  calc num ≤ Nat.pow 2 ((num / den).log2 + 1) * den :=
        Nat.le_of_lt ((Nat.div_lt_iff_lt_mul hden).1 hq)
    _ ≤ Nat.pow 2 (53 + shift num den) * den :=
        Nat.mul_le_mul_right den (Nat.pow_le_pow_right (by decide) hle)
    _ = Nat.pow 2 53 * (den * Nat.pow 2 (shift num den)) := by
        rw [hadd, Nat.mul_assoc, Nat.mul_comm den]

/-- What rounding gives below the limit is representable. -/
theorem representable_roundUnits {num den : Nat} (hden : 0 < den)
    (h : roundUnits num den < unitLimit) : Representable (roundUnits num den) :=
  ⟨h, _, _, nearestQuotient_le (Nat.mul_pos hden (Nat.two_pow_pos _)) (le_significand_mul num hden),
    rfl⟩

end Rounding

end Worksheet
