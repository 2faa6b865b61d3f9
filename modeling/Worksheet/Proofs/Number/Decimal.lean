import Worksheet.Number.Decimal
import Worksheet.Proofs.Number.Rounding

/-!
# Reading Decimals

That a decimal is read by its value, and a shortest one as what it was found
for.

Exponents are brought near zero before a decimal is read. A decimal that this
changes is infinite or zero with its own exponent too, as long as it has any
digits, because a power of ten is larger than the same power of eight. So a
decimal is read as the number nearest to its value, and zeros at the end of
its digits may as well be counted by its exponent.

The search for the shortest decimal only ends where a decimal reads back, or
at the last place, where the decimal is the magnitude itself.

## Theorems

* `Number.ofDecimal_eq_ofQuotient`: A decimal is read by its value.
* `Number.ofDecimal_mul_pow`: Zeros may be counted by the exponent.
* `Number.ofDecimal_shortest`: The shortest decimal of a magnitude is read as
  the magnitude.
-/

namespace Worksheet

open Rounding (roundUnits unitBits limitBits unitLimit two_pow_pos two_pow_add two_pow_le)

namespace Decimal

theorem ten_pow_pos (k : Nat) : 0 < Nat.pow 10 k :=
  Nat.pow_pos (by decide)

theorem five_pow_pos (k : Nat) : 0 < Nat.pow 5 k :=
  Nat.pow_pos (by decide)

theorem ten_pow_add (j k : Nat) : Nat.pow 10 (j + k) = Nat.pow 10 j * Nat.pow 10 k :=
  Nat.pow_add 10 j k

theorem ten_pow_eq (k : Nat) : Nat.pow 10 k = Nat.pow 2 k * Nat.pow 5 k :=
  Nat.mul_pow 2 5 k

theorem two_pow_le_ten_pow (k : Nat) : Nat.pow 2 (3 * k) ≤ Nat.pow 10 k := by
  have height : Nat.pow 2 (3 * k) = Nat.pow 8 k := Nat.pow_mul 2 3 k
  rw [height]
  exact Nat.pow_le_pow_left (by decide) k

/-- The choice between two neighbours answers one of them, and only one that
    reads back. -/
theorem choose_eq_some {nearerAbove readsBelow readsAbove : Bool} {below digits : Nat}
    (h : choose nearerAbove below readsBelow readsAbove = some digits) :
    digits = below ∧ readsBelow = true ∨ digits = below + 1 ∧ readsAbove = true := by
  cases readsBelow <;> cases readsAbove <;> cases nearerAbove <;>
    simp only [choose, if_true, Bool.false_eq_true, if_false, Option.some.injEq, reduceCtorEq] at h
  all_goals simp only [h.symm, and_self, true_or, or_true]

/-- The decimal at a place reads back. -/
theorem readsBack_of_atPlace? {halfway : Halfway} {units place digits : Nat}
    (h : atPlace? halfway units place = some digits) :
    readsBack units (digits * Nat.pow 10 place) = true := by
  rw [atPlace?] at h
  rcases choose_eq_some h with ⟨rfl, hback⟩ | ⟨rfl, hback⟩
  · exact hback
  · exact hback

/-- A magnitude is its own decimal at the last place. -/
theorem readsBack_exactDigits (m : Magnitude) : readsBack m.units (exactDigits m.units) = true := by
  have hunits := Rounding.roundUnits_mul_right m.units 1 (five_pow_pos unitBits)
  rw [Nat.one_mul, Rounding.roundUnits_one m.representable] at hunits
  exact decide_eq_true hunits

/-- The search ends with a decimal that reads back. -/
theorem readsBack_search (halfway : Halfway) (m : Magnitude) (place : Nat) :
    ∃ (digits p : Nat), search halfway m.units place = ⟨digits, p - unitBits⟩ ∧
      readsBack m.units (digits * Nat.pow 10 p) = true := by
  induction place with
  | zero =>
      refine ⟨exactDigits m.units, 0, ?_, ?_⟩
      · rw [search, Int.natCast_zero, Int.zero_sub]
      · exact (congrArg (readsBack m.units) (Nat.mul_one _)).trans (readsBack_exactDigits m)
  | succ place ih =>
      rw [search]
      cases hplace : atPlace? halfway m.units (place + 1) with
      | some digits => exact ⟨digits, place + 1, rfl, readsBack_of_atPlace? hplace⟩
      | none => exact ih

end Decimal

namespace Number

open Decimal (ten_pow_pos ten_pow_add two_pow_le_ten_pow)

variable {negative : Bool}

/-- A quotient is rounded by its value, not by how it is written. -/
theorem ofQuotient_congr {num den num' den' : Nat} (hden : 0 < den) (hden' : 0 < den')
    (h : num * den' = num' * den) :
    ofQuotient negative num den hden = ofQuotient negative num' den' hden' := by
  simp only [ofQuotient, Rounding.roundUnits_congr hden hden' h]

theorem ofQuotient_eq_finite {num den : Nat} (hden : 0 < den) {m : Magnitude}
    (h : roundUnits num den = m.units) : ofQuotient negative num den hden = .finite negative m := by
  rcases m with ⟨units, hunits⟩
  simp only at h
  subst h
  exact dif_pos hunits.1

theorem ofQuotient_eq_infinity {num den : Nat} (hden : 0 < den)
    (h : unitLimit ≤ roundUnits num den) :
    ofQuotient negative num den hden = .infinity negative :=
  dif_neg (Nat.not_lt.mpr h)

/-- The parts of the quotient that a decimal is, counted in units, over a power
    of ten that makes them whole. -/
def quotientOver (digits : Nat) (exponent : Int) (k : Nat) : Nat :=
  digits * Nat.pow 10 (exponent + k).toNat * Nat.pow 2 unitBits

/-- A decimal is rounded once, whatever power of ten it is brought over. -/
theorem ofDecimal_eq_of_bounded (d : Decimal) {k : Nat}
    (hk : 0 ≤ boundedExponent d.digits d.exponent + k) :
    ofDecimal negative d = ofQuotient negative
      (quotientOver d.digits (boundedExponent d.digits d.exponent) k) (Nat.pow 10 k)
      (ten_pow_pos k) := by
  rw [ofDecimal]
  rcases hbounded : boundedExponent d.digits d.exponent with n | n
  · have hsum : (Int.ofNat n + k).toNat = n + k := by
      rw [Int.ofNat_eq_natCast]
      omega
    refine ofQuotient_congr _ _ ?_
    rw [quotientOver, hsum, ten_pow_add, Nat.mul_one, Nat.mul_right_comm, Nat.mul_assoc d.digits]
  · rw [hbounded] at hk
    have hsum : k = (Int.negSucc n + k).toNat + (n + 1) := by omega
    refine ofQuotient_congr _ _ ?_
    rw [quotientOver]
    generalize (Int.negSucc n + k).toNat = z at hsum
    rw [hsum, ten_pow_add z, Nat.mul_right_comm d.digits (Nat.pow 10 z),
      Nat.mul_assoc _ (Nat.pow 10 z)]

/-- Decimals with digits are infinite from the upper bound of the exponents on. -/
theorem unitLimit_le_of_le {digits k : Nat} {exponent : Int} (hdigits : digits ≠ 0)
    (hexponent : 400 ≤ exponent) :
    unitLimit ≤ roundUnits (quotientOver digits exponent k) (Nat.pow 10 k) := by
  rcases Int.eq_ofNat_of_zero_le (show 0 ≤ exponent by omega) with ⟨n, rfl⟩
  have hsum : ((n : Int) + k).toNat = n + k := by omega
  have hbits : limitBits ≤ 3 * n + unitBits := by
    simp only [limitBits, unitBits]
    omega
  have hlimit : Nat.pow 2 limitBits ≤ Nat.pow 10 n * Nat.pow 2 unitBits := by
    refine Nat.le_trans (two_pow_le hbits) ?_
    rw [two_pow_add]
    exact Nat.mul_le_mul_right _ (two_pow_le_ten_pow n)
  -- Four hundred decimal places are more than the binary places of the limit.
  unfold unitLimit quotientOver
  rw [hsum, ten_pow_add]
  refine Rounding.pow_le_roundUnits (ten_pow_pos k) ?_
  generalize Nat.pow 2 limitBits = limit at hlimit ⊢
  generalize Nat.pow 2 unitBits = unit at hlimit ⊢
  calc limit * Nat.pow 10 k ≤ Nat.pow 10 n * unit * Nat.pow 10 k := Nat.mul_le_mul_right _ hlimit
    _ ≤ digits * (Nat.pow 10 n * unit * Nat.pow 10 k) :=
        Nat.le_mul_of_pos_left _ (Nat.pos_of_ne_zero hdigits)
    _ = digits * (Nat.pow 10 n * Nat.pow 10 k) * unit := by
        rw [Nat.mul_right_comm, ← Nat.mul_assoc digits]

/-- Decimals are nothing up to the lower bound of the exponents. -/
theorem roundUnits_eq_zero_of_le {digits k : Nat} {exponent : Int}
    (hexponent : exponent ≤ -(digits.log2 + 400 : Nat)) (hk : 0 ≤ exponent + k) :
    roundUnits (quotientOver digits exponent k) (Nat.pow 10 k) = 0 := by
  have hlog : digits < Nat.pow 2 (digits.log2 + 1) := Nat.lt_log2_self
  rw [quotientOver]
  generalize hz : (exponent + k).toNat = z
  have hsum : k = (k - z) + z := by omega
  have hbits : digits.log2 + 1 + unitBits + 1 ≤ 3 * (k - z) := by
    simp only [unitBits]
    omega
  have hdigits : Nat.pow 2 (digits.log2 + 1) * Nat.pow 2 unitBits * 2 ≤ Nat.pow 10 (k - z) := by
    have hle := Nat.le_trans (two_pow_le hbits) (two_pow_le_ten_pow _)
    rw [two_pow_add, two_pow_add (digits.log2 + 1)] at hle
    exact hle
  -- The decimal is less than half a unit.
  have hunit := two_pow_pos unitBits
  refine Rounding.roundUnits_eq_zero ?_
  generalize Nat.pow 2 unitBits = unit at hdigits hunit ⊢
  calc 2 * (digits * Nat.pow 10 z * unit) = digits * unit * 2 * Nat.pow 10 z := by
        rw [Nat.mul_comm 2, Nat.mul_right_comm digits, Nat.mul_right_comm _ (Nat.pow 10 z)]
    _ < Nat.pow 10 (k - z) * Nat.pow 10 z := by
        refine Nat.mul_lt_mul_of_pos_right (Nat.lt_of_lt_of_le ?_ hdigits) (ten_pow_pos z)
        exact Nat.mul_lt_mul_of_pos_right (Nat.mul_lt_mul_of_pos_right hlog hunit) (by decide)
    _ = Nat.pow 10 k := by rw [← ten_pow_add, ← hsum]

/-- A decimal is read by its value, whatever its exponent. -/
theorem ofDecimal_eq_ofQuotient (d : Decimal) {k : Nat} (hk : 0 ≤ d.exponent + k) :
    ofDecimal negative d = ofQuotient negative (quotientOver d.digits d.exponent k) (Nat.pow 10 k)
      (ten_pow_pos k) := by
  rcases d with ⟨digits, exponent⟩
  have hbounded : boundedExponent digits exponent =
      max (-((digits.log2 + 400 : Nat) : Int)) (min 400 exponent) := rfl
  simp only at hk
  have hk' : 0 ≤ boundedExponent digits exponent + k := by omega
  rw [ofDecimal_eq_of_bounded ⟨digits, exponent⟩ hk']
  generalize boundedExponent digits exponent = bounded at hbounded hk'
  by_cases hzero : digits = 0
  · have hnum : ∀ e, quotientOver digits e k = 0 := by
      intro e
      rw [quotientOver, hzero, Nat.zero_mul, Nat.zero_mul]
    simp only [hnum]
  · by_cases hlarge : 400 < exponent
    · have hlimit : 400 ≤ bounded := by omega
      rw [ofQuotient_eq_infinity _ (unitLimit_le_of_le hzero hlimit),
        ofQuotient_eq_infinity _ (unitLimit_le_of_le hzero (Int.le_of_lt hlarge))]
    · by_cases hsmall : exponent < -(digits.log2 + 400 : Nat)
      · have hlimit : bounded ≤ -(digits.log2 + 400 : Nat) := by omega
        simp only [ofQuotient, roundUnits_eq_zero_of_le hlimit hk',
          roundUnits_eq_zero_of_le (Int.le_of_lt hsmall) hk]
      · have hsame : bounded = exponent := by omega
        rw [hsame]

/-- Zeros at the end of the digits may be counted by the exponent. -/
theorem ofDecimal_mul_pow (digits j : Nat) (exponent : Int) :
    ofDecimal negative ⟨digits * Nat.pow 10 j, exponent⟩ =
      ofDecimal negative ⟨digits, exponent + j⟩ := by
  have hk : 0 ≤ exponent + exponent.natAbs := by omega
  have hk' : 0 ≤ exponent + j + exponent.natAbs := by omega
  have hsum : (exponent + j + exponent.natAbs).toNat = j + (exponent + exponent.natAbs).toNat := by
    omega
  rw [ofDecimal_eq_ofQuotient ⟨_, _⟩ hk, ofDecimal_eq_ofQuotient ⟨_, _⟩ hk']
  simp only [quotientOver, hsum, ten_pow_add, Nat.mul_assoc]

theorem ofDecimal_zero (exponent : Int) : ofDecimal negative ⟨0, exponent⟩ = zero negative := by
  have hk : 0 ≤ exponent + exponent.natAbs := by omega
  rw [ofDecimal_eq_ofQuotient ⟨_, _⟩ hk]
  refine ofQuotient_eq_finite _ ?_
  rw [quotientOver, Nat.zero_mul, Nat.zero_mul, Rounding.roundUnits_zero (ten_pow_pos _)]
  rfl

/-- Counting in units takes the twos out of the tens. -/
theorem ofQuotient_tens (num k : Nat) :
    ofQuotient negative (num * Nat.pow 2 k) (Nat.pow 10 k) (ten_pow_pos k) =
      ofQuotient negative num (Nat.pow 5 k) (Decimal.five_pow_pos k) := by
  refine ofQuotient_congr _ _ ?_
  rw [Decimal.ten_pow_eq, Nat.mul_assoc]

/-- The shortest decimal of a magnitude is read as the magnitude. -/
theorem ofDecimal_shortest (negative : Bool) (halfway : Halfway) (m : Magnitude) :
    ofDecimal negative (Decimal.shortest halfway m) = .finite negative m := by
  rcases Decimal.readsBack_search halfway m (Decimal.length (Decimal.exactDigits m.units) - 1) with
    ⟨digits, p, hsearch, hback⟩
  have hk : (0 : Int) ≤ (p : Int) - unitBits + unitBits := by omega
  have hsum : ((p : Int) - unitBits + unitBits).toNat = p := by omega
  rw [Decimal.shortest, hsearch, ofDecimal_eq_ofQuotient ⟨_, _⟩ hk]
  simp only [quotientOver, hsum]
  rw [ofQuotient_tens]
  exact ofQuotient_eq_finite _ (of_decide_eq_true hback)

end Number

end Worksheet
