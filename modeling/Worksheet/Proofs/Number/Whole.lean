import Worksheet.Proofs.Number.Decimal
import Worksheet.Proofs.Number.Nearest

/-!
# Whole Numbers in Double Precision

Natural numbers among the numbers of a sheet, and arithmetic with them.

A natural number is held by the short number nearest to it, or it is infinite
when that number is too large. Whole numbers that are held exactly are added
and multiplied exactly, and the result is rounded once. Beyond the finite
range nothing comes back: what is added to an infinite number, or multiplied
with it, leaves it there, and the exact result is out of range as well.

## Main definitions

* `Number.wholeLimit`: The least natural number that is out of range.

## Theorems

* `Number.ofNat_eq_infinity_iff`, `Number.ofNat_eq_finite_iff`: What holds a
  natural number.
* `Number.ofNat_roundUnits`: Rounding before makes no difference.
* `Number.ofNat_add`, `Number.ofNat_mul`: Sums and products of whole numbers.
-/

namespace Worksheet

namespace Number

open Rounding (Short roundUnits unitBits unitLimit)

/-- The exponent of the least power of two that is out of range. -/
def wholeBits : Nat := 1024

/-- The least natural number that is out of range. -/
def wholeLimit : Nat :=
  Nat.pow 2 wholeBits

/-- The limit for whole numbers, counted in units, is that for all numbers. -/
theorem wholeLimit_mul : wholeLimit * Nat.pow 2 unitBits = unitLimit := by
  have hbits : wholeBits + unitBits = Rounding.limitBits := rfl
  unfold wholeLimit unitLimit
  rw [← hbits, Rounding.two_pow_add]

/-- Small powers of two are below the limit. -/
theorem two_pow_lt_wholeLimit {k : Nat} (h : k < wholeBits) : Nat.pow 2 k < wholeLimit := by
  unfold wholeLimit
  generalize wholeBits = bits at h
  exact Nat.pow_lt_pow_right (by decide) h

theorem short_wholeLimit : Short wholeLimit := by
  unfold wholeLimit
  rw [← Nat.one_mul (Nat.pow 2 wholeBits)]
  exact Rounding.short_mul_two_pow (by decide) wholeBits

/-- A whole number is too large in units when it is too large as it is. -/
theorem unitLimit_le_iff {n : Nat} : unitLimit ≤ n * Nat.pow 2 unitBits ↔ wholeLimit ≤ n := by
  rw [← wholeLimit_mul]
  exact Nat.mul_le_mul_right_iff (Rounding.two_pow_pos unitBits)

/-- What is too large is still too large when it is rounded. -/
theorem wholeLimit_le_roundUnits {n : Nat} (h : wholeLimit ≤ n) : wholeLimit ≤ roundUnits n 1 := by
  rw [← Rounding.roundUnits_of_short short_wholeLimit]
  refine Rounding.roundUnits_le_roundUnits Nat.one_pos Nat.one_pos ?_
  rw [Nat.mul_one, Nat.mul_one]
  exact h

/-- Units that are rounded below the limit make a finite number. -/
theorem exists_ofUnits {negative : Bool} {units : Nat} (h : roundUnits units 1 < unitLimit) :
    ∃ m, ofUnits negative units = finite negative m ∧ m.units = roundUnits units 1 := by
  have hm := Rounding.representable_roundUnits Nat.one_pos h
  generalize hround : roundUnits units 1 = rounded at hm
  exact ⟨⟨rounded, hm⟩, ofQuotient_eq_finite Nat.one_pos hround, rfl⟩

/-- A whole number that is rounded below the limit makes a finite number. -/
theorem exists_ofNat {n : Nat} (h : roundUnits n 1 < wholeLimit) :
    ∃ m, ofNat n = finite false m ∧ m.units = roundUnits n 1 * Nat.pow 2 unitBits := by
  have hunits := Rounding.roundUnits_mul_two_pow n unitBits
  unfold ofNat
  generalize n * Nat.pow 2 unitBits = units at hunits ⊢
  rw [← hunits]
  refine exists_ofUnits (Nat.lt_of_not_le fun hle => Nat.not_le.mpr h ?_)
  rw [← unitLimit_le_iff, ← hunits]
  exact hle

/-- A natural number is infinite when the nearest short number is too large. -/
theorem ofNat_eq_infinity_iff {n : Nat} :
    ofNat n = infinity false ↔ wholeLimit ≤ roundUnits n 1 := by
  constructor
  · intro h
    by_contra hlt
    rcases exists_ofNat (Nat.lt_of_not_le hlt) with ⟨m, hm, -⟩
    rw [h] at hm
    exact absurd hm (by simp only [reduceCtorEq, not_false_eq_true])
  · intro h
    have hunits := Rounding.roundUnits_mul_two_pow n unitBits
    rw [← unitLimit_le_iff, ← hunits] at h
    unfold ofNat
    generalize n * Nat.pow 2 unitBits = units at h
    exact ofQuotient_eq_infinity Nat.one_pos h

/-- A whole number that is held exactly. -/
theorem exists_ofNat_of_short {n : Nat} (hn : Short n) (h : n < wholeLimit) :
    ∃ m, ofNat n = finite false m ∧ m.units = n * Nat.pow 2 unitBits := by
  have hround := Rounding.roundUnits_of_short hn
  rcases exists_ofNat (Nat.lt_of_le_of_lt (Nat.le_of_eq hround) h) with ⟨m, hm, hunits⟩
  exact ⟨m, hm, by rw [hunits, hround]⟩

/-- A whole number beyond the limit is infinite. -/
theorem ofNat_of_wholeLimit_le {n : Nat} (h : wholeLimit ≤ n) : ofNat n = infinity false :=
  ofNat_eq_infinity_iff.mpr (wholeLimit_le_roundUnits h)

/-- Rounding a natural number before makes no difference. -/
theorem ofNat_roundUnits (n : Nat) : ofNat (roundUnits n 1) = ofNat n := by
  have hself := Rounding.roundUnits_of_short (@Rounding.short_roundUnits n 1 Nat.one_pos)
  by_cases h : wholeLimit ≤ roundUnits n 1
  · rw [ofNat_of_wholeLimit_le h, ofNat_eq_infinity_iff.mpr h]
  · rcases exists_ofNat (Nat.lt_of_not_le h) with ⟨m, hm, hunits⟩
    have hround := Rounding.roundUnits_mul_two_pow (roundUnits n 1) unitBits
    rw [hself] at hround
    rw [hm]
    unfold ofNat
    generalize roundUnits n 1 * Nat.pow 2 unitBits = units at hround hunits
    exact ofQuotient_eq_finite Nat.one_pos (hround.trans hunits.symm)

theorem ofUnits_zero (negative : Bool) : ofUnits negative 0 = zero negative :=
  ofQuotient_eq_finite Nat.one_pos (Rounding.roundUnits_zero Nat.one_pos)

/-- The sum of finite numbers is the rounded sum of their units. -/
theorem finite_add (a b : Bool) (m n : Magnitude) : finite a m + finite b n =
    if signedUnits a m + signedUnits b n = 0 then zero (a && b)
    else ofUnits (decide (signedUnits a m + signedUnits b n < 0))
      (signedUnits a m + signedUnits b n).natAbs := rfl

/-- The product of finite numbers is the rounded product of their units. -/
theorem finite_mul (a b : Bool) (m n : Magnitude) (hone : 0 < Nat.pow 2 unitBits) :
    finite a m * finite b n =
      ofQuotient (a != b) (m.units * n.units) (Nat.pow 2 unitBits) hone := by
  have hmul : finite a m * finite b n = mul (finite a m) (finite b n) := rfl
  rw [hmul, mul]

/-- The quotient of finite numbers is the rounded quotient of their units. -/
theorem finite_div (a b : Bool) (m : Magnitude) {n : Magnitude} (hn : n.units ≠ 0) :
    finite a m / finite b n = ofQuotient (a != b) (m.units * Nat.pow 2 unitBits) n.units
      (Nat.pos_of_ne_zero hn) := by
  have hdiv : finite a m / finite b n = div (finite a m) (finite b n) := rfl
  rw [hdiv, div, dif_neg hn]

theorem infinity_mul (a b : Bool) {n : Magnitude} (h : n.units ≠ 0) :
    infinity a * finite b n = infinity (a != b) :=
  if_neg h

/-- Whole numbers are added exactly and rounded once. -/
theorem ofNat_add {a b : Nat} (ha : Short a) (hb : Short b) (hlt : b < wholeLimit) :
    ofNat a + ofNat b = ofNat (a + b) := by
  rcases exists_ofNat_of_short hb hlt with ⟨n, hn, hnunits⟩
  by_cases hle : wholeLimit ≤ a
  · rw [ofNat_of_wholeLimit_le hle, hn, ofNat_of_wholeLimit_le (Nat.le_add_right_of_le hle)]
    rfl
  · rcases exists_ofNat_of_short ha (Nat.lt_of_not_le hle) with ⟨m, hm, hmunits⟩
    have hm' : signedUnits false m = (m.units : Int) := rfl
    have hn' : signedUnits false n = (n.units : Int) := rfl
    have hsum : (a + b) * Nat.pow 2 unitBits = m.units + n.units := by
      rw [hmunits, hnunits, Nat.add_mul]
    rw [hm, hn, finite_add, hm', hn']
    unfold ofNat
    rw [hsum]
    by_cases hzero : m.units + n.units = 0
    · rw [if_pos (by omega), hzero, ofUnits_zero]
      rfl
    · have hunits : ((m.units : Int) + n.units).natAbs = m.units + n.units := by omega
      rw [if_neg (by omega), decide_eq_false (by omega), hunits]

/-- Whole numbers are multiplied exactly and rounded once. -/
theorem ofNat_mul {a b : Nat} (ha : Short a) (hb : Short b) (hlt : b < wholeLimit) (hne : b ≠ 0) :
    ofNat a * ofNat b = ofNat (a * b) := by
  rcases exists_ofNat_of_short hb hlt with ⟨n, hn, hnunits⟩
  have hpos : 0 < Nat.pow 2 unitBits := Rounding.two_pow_pos unitBits
  by_cases hle : wholeLimit ≤ a
  · have hbeyond : wholeLimit ≤ a * b := Nat.le_trans hle (Nat.le_mul_of_pos_right a (by omega))
    have hn0 : n.units ≠ 0 := by
      rw [hnunits]
      exact Nat.mul_ne_zero hne hpos.ne'
    rw [ofNat_of_wholeLimit_le hle, hn, ofNat_of_wholeLimit_le hbeyond]
    exact infinity_mul false false hn0
  · rcases exists_ofNat_of_short ha (Nat.lt_of_not_le hle) with ⟨m, hm, hmunits⟩
    have hproduct : m.units * n.units * 1 = a * b * Nat.pow 2 unitBits * Nat.pow 2 unitBits := by
      rw [Nat.mul_one, hmunits, hnunits, Nat.mul_mul_mul_comm, Nat.mul_assoc (a * b)]
    have hsign : (false != false) = false := rfl
    rw [hm, hn, finite_mul false false m n hpos, hsign]
    unfold ofNat ofUnits
    generalize Nat.pow 2 unitBits = one at hproduct hpos ⊢
    exact ofQuotient_congr hpos Nat.one_pos hproduct

end Number

end Worksheet
