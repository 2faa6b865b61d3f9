import Worksheet.Number.Rounding

/-!
# Rounding Quotients

What rounding depends on, and what it leaves as it is.

A quotient is rounded by its value, however it is written: multiplying both of
its parts changes nothing. A number that is held exactly is its own rounding.
Rounding does not go below a power of two, so what is large stays large, and
what is less than half a unit is nothing.

## Theorems

* `roundUnits_congr`: Equal quotients are rounded alike.
* `roundUnits_one`: A number that is held exactly is not changed.
* `pow_le_roundUnits`: Rounding does not pass a power of two.
* `roundUnits_eq_zero`: Less than half a unit is rounded to nothing.
-/

namespace Worksheet

namespace Rounding

/-- Powers are written as in the definitions. They are never to be computed, so
    what is said of them is said with variables. -/
theorem two_pow_pos (k : Nat) : 0 < Nat.pow 2 k :=
  Nat.two_pow_pos k

theorem two_pow_add (j k : Nat) : Nat.pow 2 (j + k) = Nat.pow 2 j * Nat.pow 2 k :=
  Nat.pow_add 2 j k

theorem two_pow_le {j k : Nat} (h : j ≤ k) : Nat.pow 2 j ≤ Nat.pow 2 k :=
  Nat.pow_le_pow_right (by decide) h

theorem two_pow_dvd {j k : Nat} (h : j ≤ k) : Nat.pow 2 j ∣ Nat.pow 2 k :=
  Nat.pow_dvd_pow 2 h

theorem nearestQuotient_mul_right (num den : Nat) {c : Nat} (hc : 0 < c) :
    nearestQuotient (num * c) (den * c) = nearestQuotient num den := by
  have hlt : 2 * (num % den * c) < den * c ↔ 2 * (num % den) < den := by
    rw [← Nat.mul_assoc]
    exact Nat.mul_lt_mul_right hc
  have hgt : den * c < 2 * (num % den * c) ↔ den < 2 * (num % den) := by
    rw [← Nat.mul_assoc]
    exact Nat.mul_lt_mul_right hc
  simp only [nearestQuotient, Nat.mul_div_mul_right _ _ hc, Nat.mul_mod_mul_right, hlt, hgt]

/-- Rounding does not depend on how the quotient is written. -/
theorem roundUnits_mul_right (num den : Nat) {c : Nat} (hc : 0 < c) :
    roundUnits (num * c) (den * c) = roundUnits num den := by
  have hshift : shift (num * c) (den * c) = shift num den := by
    rw [shift, Nat.mul_div_mul_right _ _ hc, shift]
  simp only [roundUnits, hshift]
  rw [Nat.mul_right_comm den c, nearestQuotient_mul_right _ _ hc]

/-- Equal quotients are rounded alike. -/
theorem roundUnits_congr {num den num' den' : Nat} (hden : 0 < den) (hden' : 0 < den')
    (h : num * den' = num' * den) : roundUnits num den = roundUnits num' den' := by
  calc roundUnits num den = roundUnits (num * den') (den * den') :=
        (roundUnits_mul_right num den hden').symm
    _ = roundUnits (num' * den) (den' * den) := by rw [h, Nat.mul_comm den]
    _ = roundUnits num' den' := roundUnits_mul_right num' den' hden

/-- An exact quotient is its own nearest. -/
theorem nearestQuotient_of_dvd {num den : Nat} (hden : 0 < den) (h : den ∣ num) :
    nearestQuotient num den = num / den := by
  have hmod : num % den = 0 := Nat.mod_eq_zero_of_dvd h
  simp only [nearestQuotient, hmod]
  rw [if_pos (by omega)]

/-- The zeros behind the significand of a number that is held exactly are zeros
    of the number. -/
theorem pow_shift_dvd {n : Nat} (h : Representable n) : Nat.pow 2 (shift n 1) ∣ n := by
  rcases h with ⟨-, m, s, hm, rfl⟩
  rw [shift, Nat.div_one]
  rcases Nat.lt_or_eq_of_le hm with hlt | rfl
  · -- There are not more digits than the significand and its zeros have.
    by_cases hzero : m * Nat.pow 2 s = 0
    · rw [hzero]
      exact Nat.dvd_zero _
    · have hbound : m * Nat.pow 2 s < Nat.pow 2 (53 + s) := by
        rw [two_pow_add]
        exact Nat.mul_lt_mul_of_pos_right hlt (two_pow_pos s)
      have hlog := (Nat.log2_lt hzero).mpr hbound
      exact Nat.dvd_trans (two_pow_dvd (by omega)) (Nat.dvd_mul_left _ m)
  · -- The significand is a power of two itself.
    have hlog : (Nat.pow 2 (53 + s)).log2 = 53 + s := Nat.log2_two_pow
    rw [← two_pow_add, hlog]
    exact two_pow_dvd (by omega)

/-- A number that is held exactly is not changed. -/
theorem roundUnits_one {n : Nat} (h : Representable n) : roundUnits n 1 = n := by
  have hdvd := pow_shift_dvd h
  rw [roundUnits, Nat.one_mul, nearestQuotient_of_dvd (two_pow_pos _) hdvd]
  exact Nat.div_mul_cancel hdvd

theorem div_le_nearestQuotient (num den : Nat) : num / den ≤ nearestQuotient num den := by
  simp only [nearestQuotient]
  split
  · exact Nat.le_refl _
  · split <;> omega

/-- Rounding does not pass a power of two. -/
theorem pow_le_roundUnits {num den k : Nat} (hden : 0 < den) (h : Nat.pow 2 k * den ≤ num) :
    Nat.pow 2 k ≤ roundUnits num den := by
  have hk : Nat.pow 2 k ≤ num / den := (Nat.le_div_iff_mul_le hden).mpr h
  have hne : num / den ≠ 0 := Nat.ne_of_gt (Nat.lt_of_lt_of_le (two_pow_pos k) hk)
  have hlog : k ≤ (num / den).log2 := (Nat.le_log2 hne).mpr hk
  have hself : Nat.pow 2 (num / den).log2 ≤ num / den := Nat.log2_self_le hne
  -- The leading digit is in front of the zeros, so it is kept.
  have hsplit : Nat.pow 2 (num / den).log2 =
      Nat.pow 2 ((num / den).log2 - shift num den) * Nat.pow 2 (shift num den) := by
    rw [← two_pow_add, Nat.sub_add_cancel (by rw [shift]; omega)]
  have hlead : Nat.pow 2 ((num / den).log2 - shift num den) ≤
      num / (den * Nat.pow 2 (shift num den)) := by
    rw [← Nat.div_div_eq_div_mul, Nat.le_div_iff_mul_le (two_pow_pos _), ← hsplit]
    exact hself
  calc Nat.pow 2 k ≤ Nat.pow 2 (num / den).log2 := two_pow_le hlog
    _ = Nat.pow 2 ((num / den).log2 - shift num den) * Nat.pow 2 (shift num den) := hsplit
    _ ≤ nearestQuotient num (den * Nat.pow 2 (shift num den)) * Nat.pow 2 (shift num den) :=
        Nat.mul_le_mul_right _ (Nat.le_trans hlead (div_le_nearestQuotient _ _))
    _ = roundUnits num den := rfl

/-- Less than half a unit is rounded to nothing. -/
theorem roundUnits_eq_zero {num den : Nat} (h : 2 * num < den) : roundUnits num den = 0 := by
  have hlt : num < den := by omega
  have hshift : shift num den = 0 := by
    rw [shift, Nat.div_eq_of_lt hlt, Nat.log2_zero]
  have hscale : den * Nat.pow 2 0 = den := Nat.mul_one den
  simp only [roundUnits, hshift, hscale, nearestQuotient, Nat.div_eq_of_lt hlt,
    Nat.mod_eq_of_lt hlt, if_pos h, Nat.zero_mul]

theorem roundUnits_zero {den : Nat} (hden : 0 < den) : roundUnits 0 den = 0 :=
  roundUnits_eq_zero (by omega)

end Rounding

end Worksheet
