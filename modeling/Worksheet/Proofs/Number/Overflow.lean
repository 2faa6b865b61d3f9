import Worksheet.Proofs.Number.Shortest
import Worksheet.Proofs.Number.Whole

/-!
# Overflow

When arithmetic on finite numbers leaves the finite range.

The result of an operation is its exact result, rounded once. It is infinite
when that lies half a step beyond the largest finite number or further out,
and the sign is the sign of the exact result. Nothing else makes an infinite
number of finite ones, and there is always a result as long as nothing is
divided by zero.

What is rounded is kept by `Rounds` as the quotient that is computed, next to
the exact result that it stands for, so that whatever is to be said about the
operations is said once about rounding.

## Main definitions

* `Number.exact`: The value of a finite number.
* `Number.overflowBound`, `Number.Overflows`: From where on results are out of
  range.
* `Number.Rounds`: A number is an exact result, rounded once.
* `Number.IsRounded`: What this comes to as far as the range is concerned.

## Theorems

* `Number.unitLimit_le_roundUnits_iff`: From where on rounding leaves the range.
* `Number.Rounds.isRounded`: What is rounded is infinite exactly on overflow.
* `Number.rounds_add`, `Number.rounds_mul`, `Number.rounds_div`: The operations
  on finite numbers round their exact results.
-/

namespace Worksheet

namespace Number

open Decimal (unitsOfOne unitsOfOne_pos)
open Rounding (roundUnits unitBits unitLimit)

/-- The value of a finite number. What is not finite has none and counts as zero. -/
def exact : Number → ℚ
  | .finite negative m => signedUnits negative m / unitsOfOne
  | _ => 0

/-- The number of zeros at the end of the bound for overflows. -/
def overflowBits : Nat := 970

/-- The middle between the largest finite number and the power of two after it. -/
def overflowBound : ℚ :=
  ((Nat.pow 2 54 - 1) * Nat.pow 2 overflowBits : Nat)

/-- The exact result is out of range, with this sign. -/
structure Overflows (q : ℚ) (negative : Bool) : Prop where
  /-- It is too large to be rounded to a finite number. -/
  bound : overflowBound ≤ |q|
  /-- The sign is its own. -/
  sign : negative = true ↔ q < 0

/-- The number is an exact result that is rounded once: a quotient of units that
    has the size of the result, with the sign of the result unless that is
    zero. -/
inductive Rounds : Number → ℚ → Prop where
  | intro {negative : Bool} {num den : Nat} {q : ℚ} (hden : 0 < den)
      (hq : |q| * unitsOfOne = (num : ℚ) / den) (hsign : q ≠ 0 → (negative = true ↔ q < 0)) :
      Rounds (ofQuotient negative num den hden) q

/-- The number is what an exact result is rounded to, as far as the finite range
    is concerned. -/
structure IsRounded (z : Number) (q : ℚ) : Prop where
  /-- There is a result. -/
  ne_nan : z ≠ nan
  /-- It is infinite exactly on overflow. -/
  eq_infinity_iff : ∀ negative, z = infinity negative ↔ Overflows q negative

theorem overflowBound_pos : 0 < overflowBound :=
  Nat.cast_pos.mpr (Nat.mul_pos (by decide) (Rounding.two_pow_pos overflowBits))

/-- Rounding ends beyond the largest magnitude exactly from halfway past it
    on. -/
theorem unitLimit_le_roundUnits_iff {num den : Nat} (hden : 0 < den) :
    unitLimit ≤ roundUnits num den ↔ overflowBound * unitsOfOne ≤ (num : ℚ) / den := by
  have hbits : 54 + (overflowBits + unitBits) = Rounding.limitBits := rfl
  have hlimit : unitLimit = Nat.pow 2 (54 + (overflowBits + unitBits)) := by
    unfold unitLimit
    rw [hbits]
  have hbound : overflowBound * unitsOfOne =
      ((Nat.pow 2 54 - 1) * Nat.pow 2 (overflowBits + unitBits) : Nat) := by
    unfold overflowBound unitsOfOne
    rw [Rounding.two_pow_add, ← Nat.mul_assoc]
    exact (Nat.cast_mul _ _).symm
  rw [hlimit, Rounding.two_pow_le_roundUnits_iff hden, hbound,
    le_div_iff₀ (Nat.cast_pos.mpr hden), ← Nat.cast_mul, Nat.cast_le]

/-- What is rounded is infinite exactly on overflow. -/
theorem Rounds.isRounded {z : Number} {q : ℚ} (h : Rounds z q) : IsRounded z q := by
  rcases h with ⟨hden, hq, hsign⟩
  rename_i negative num den
  -- The quotient is the absolute value in units, so both have the same bound.
  have hlimit := @unitLimit_le_roundUnits_iff num den hden
  rw [← hq, mul_le_mul_iff_of_pos_right unitsOfOne_pos] at hlimit
  by_cases hbound : overflowBound ≤ |q|
  · have hne : q ≠ 0 := by
      rintro rfl
      rw [abs_zero] at hbound
      exact absurd overflowBound_pos (not_lt.mpr hbound)
    rw [ofQuotient_eq_infinity hden (hlimit.mpr hbound)]
    refine ⟨by simp only [ne_eq, reduceCtorEq, not_false_eq_true], fun negative' => ?_⟩
    rw [infinity.injEq]
    constructor
    · rintro rfl
      exact ⟨hbound, hsign hne⟩
    · intro h
      exact Bool.eq_iff_iff.mpr ((hsign hne).trans h.sign.symm)
  · have hlt := Nat.lt_of_not_le (mt hlimit.mp hbound)
    have hfinite : ofQuotient negative num den hden =
        finite negative ⟨_, Rounding.representable_roundUnits hden hlt⟩ :=
      ofQuotient_eq_finite hden rfl
    rw [hfinite]
    refine ⟨by simp only [ne_eq, reduceCtorEq, not_false_eq_true], fun negative' => ?_⟩
    simp only [reduceCtorEq, false_iff]
    exact fun h => hbound h.bound

theorem isFinite_iff {x : Number} : x.isFinite = true ↔ ∃ negative m, x = finite negative m := by
  cases x with
  | nan => simp only [isFinite, Bool.false_eq_true, reduceCtorEq, exists_false]
  | infinity a => simp only [isFinite, Bool.false_eq_true, reduceCtorEq, exists_false]
  | finite a m => exact ⟨fun _ => ⟨a, m, rfl⟩, fun _ => rfl⟩

theorem ne_of_isFinite {x : Number} (h : x.isFinite = true) :
    x ≠ nan ∧ ∀ negative, x ≠ infinity negative := by
  rcases isFinite_iff.mp h with ⟨negative, m, rfl⟩
  simp only [ne_eq, reduceCtorEq, not_false_eq_true, implies_true, and_self]

/-- What has a result and does not overflow is finite. -/
theorem IsRounded.isFinite_or {z : Number} {q : ℚ} (h : IsRounded z q) :
    z.isFinite = true ∨ ∃ negative, z = infinity negative ∧ Overflows q negative := by
  cases z with
  | nan => exact absurd rfl h.ne_nan
  | infinity negative => exact .inr ⟨negative, rfl, (h.eq_infinity_iff negative).mp rfl⟩
  | finite negative m => exact .inl rfl

theorem cast_signedUnits (negative : Bool) (m : Magnitude) :
    (signedUnits negative m : ℚ) = if negative then -(m.units : ℚ) else m.units := by
  cases negative with
  | true => exact (Int.cast_neg _).trans (congrArg Neg.neg (Int.cast_natCast _))
  | false => exact Int.cast_natCast _

/-- The sign plays no part in the absolute value. -/
theorem abs_exact_finite (negative : Bool) (m : Magnitude) :
    |(finite negative m).exact| = m.units / unitsOfOne := by
  rw [exact, abs_div, abs_of_pos unitsOfOne_pos, cast_signedUnits]
  congr 1
  cases negative with
  | true => rw [if_pos rfl, abs_neg, Nat.abs_cast]
  | false => rw [if_neg Bool.false_ne_true, Nat.abs_cast]

/-- A number that is not zero is negative exactly when its sign says so. -/
theorem exact_finite_neg_iff {negative : Bool} {m : Magnitude} (hm : m.units ≠ 0) :
    (finite negative m).exact < 0 ↔ negative = true := by
  have hpos : (0 : ℚ) < m.units := Nat.cast_pos.mpr (Nat.pos_of_ne_zero hm)
  rw [exact, div_lt_iff₀ unitsOfOne_pos, zero_mul, cast_signedUnits]
  cases negative with
  | true => exact ⟨fun _ => rfl, fun _ => neg_neg_of_pos hpos⟩
  | false => exact ⟨fun h => absurd hpos (not_lt.mpr h.le), fun h => absurd h Bool.false_ne_true⟩

/-- A product is negative when exactly one of its factors is. -/
theorem bne_iff_mul_neg {a b : Bool} {x y : ℚ} (hx : x < 0 ↔ a = true) (hy : y < 0 ↔ b = true)
    (hne : x * y ≠ 0) : (a != b) = true ↔ x * y < 0 := by
  rcases mul_ne_zero_iff.mp hne with ⟨hxne, hyne⟩
  rw [bne_iff_ne, ne_eq, Bool.eq_iff_iff, ← hx, ← hy]
  rcases lt_or_gt_of_ne hxne with hxneg | hxpos
  · rcases lt_or_gt_of_ne hyne with hyneg | hypos
    · simp only [hxneg, hyneg, not_true_eq_false, false_iff, not_lt,
        (mul_pos_of_neg_of_neg hxneg hyneg).le]
    · simp only [hxneg, hypos.not_gt, iff_false, not_true_eq_false, not_false_eq_true,
        mul_neg_of_neg_of_pos hxneg hypos]
  · rcases lt_or_gt_of_ne hyne with hyneg | hypos
    · simp only [hxpos.not_gt, hyneg, iff_true, not_false_eq_true,
        mul_neg_of_pos_of_neg hxpos hyneg]
    · simp only [hxpos.not_gt, hypos.not_gt, not_true_eq_false, false_iff, not_lt,
        (mul_pos hxpos hypos).le]

section Finite

variable {a b : Bool} {m n : Magnitude}

/-- The sum of two finite numbers is their exact sum, rounded. -/
theorem rounds_add :
    Rounds (finite a m + finite b n) ((finite a m).exact + (finite b n).exact) := by
  have hexact : (finite a m).exact + (finite b n).exact =
      ((signedUnits a m + signedUnits b n : Int) : ℚ) / unitsOfOne := by
    rw [exact, exact, ← add_div, ← Int.cast_add]
  rw [hexact, finite_add]
  generalize signedUnits a m + signedUnits b n = sum
  by_cases hzero : sum = 0
  · rw [if_pos hzero, ← ofUnits_zero, hzero, Int.cast_zero, zero_div]
    refine .intro Nat.one_pos ?_ fun h => absurd rfl h
    rw [abs_zero, zero_mul, Nat.cast_zero, zero_div]
  · rw [if_neg hzero]
    refine .intro Nat.one_pos ?_ fun _ => ?_
    · rw [abs_div, abs_of_pos unitsOfOne_pos, div_mul_cancel₀ _ unitsOfOne_pos.ne', Nat.cast_one,
        div_one, Nat.cast_natAbs, Int.cast_abs]
    · rw [decide_eq_true_iff, div_lt_iff₀ unitsOfOne_pos, zero_mul, Int.cast_lt_zero]

theorem units_ne_zero_of_exact_ne_zero (h : (finite a m).exact ≠ 0) : m.units ≠ 0 := by
  intro hzero
  refine h (abs_eq_zero.mp ?_)
  rw [abs_exact_finite, hzero, Nat.cast_zero, zero_div]

/-- The product of two finite numbers is their exact product, rounded. -/
theorem rounds_mul :
    Rounds (finite a m * finite b n) ((finite a m).exact * (finite b n).exact) := by
  rw [finite_mul a b m n (Rounding.two_pow_pos unitBits)]
  refine .intro _ ?_ fun hne => ?_
  · rw [abs_mul, abs_exact_finite, abs_exact_finite, mul_assoc,
      div_mul_cancel₀ _ unitsOfOne_pos.ne', Nat.cast_mul, div_mul_eq_mul_div, unitsOfOne]
  · rcases mul_ne_zero_iff.mp hne with ⟨hm, hn⟩
    exact bne_iff_mul_neg (exact_finite_neg_iff (units_ne_zero_of_exact_ne_zero hm))
      (exact_finite_neg_iff (units_ne_zero_of_exact_ne_zero hn)) hne

/-- The quotient of two finite numbers is their exact quotient, rounded, when
    the divisor is not zero. -/
theorem rounds_div (hn : n.units ≠ 0) :
    Rounds (finite a m / finite b n) ((finite a m).exact / (finite b n).exact) := by
  have hn' : (n.units : ℚ) ≠ 0 := Nat.cast_ne_zero.mpr hn
  rw [finite_div a b m hn]
  refine .intro _ ?_ fun hne => ?_
  · rw [abs_div, abs_exact_finite, abs_exact_finite, div_div_div_cancel_right₀ unitsOfOne_pos.ne',
      Nat.cast_mul, div_mul_eq_mul_div, unitsOfOne]
  · rw [div_eq_mul_inv] at hne ⊢
    have hm := units_ne_zero_of_exact_ne_zero (mul_ne_zero_iff.mp hne).1
    exact bne_iff_mul_neg (exact_finite_neg_iff hm)
      (inv_lt_zero.trans (exact_finite_neg_iff hn)) hne

end Finite

theorem exact_neg (x : Number) : (-x).exact = -x.exact := by
  cases x with
  | nan => exact neg_zero.symm
  | infinity a => exact neg_zero.symm
  | finite a m =>
      have hneg : -finite a m = finite (!a) m := rfl
      rw [hneg, exact, exact, ← neg_div, cast_signedUnits, cast_signedUnits]
      cases a with
      | true => rw [if_pos rfl, neg_neg]; rfl
      | false => rfl

theorem isFinite_neg (x : Number) : (-x).isFinite = x.isFinite := by
  cases x <;> rfl

end Number

end Worksheet
