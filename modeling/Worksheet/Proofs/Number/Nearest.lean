import Mathlib.Algebra.Order.Field.Basic
import Mathlib.Algebra.Order.Field.Rat
import Mathlib.Data.Nat.Cast.Order.Field
import Mathlib.Data.Rat.Cast.Order
import Mathlib.Tactic.Linarith
import Worksheet.Proofs.Number.Rounding

/-!
# The Nearest Number

What rounding a quotient means, apart from how it is computed.

Of the numbers with at most 53 binary digits in front of zeros, rounding takes
the one nearest to the quotient. Two of them can be equally near only when
they are neighbours, and then one ends in more zeros than the other; that is
the one with the even significand, and it is taken. There is only one number
like that, so this describes rounding completely.

Two consequences are all that other proofs need: a larger quotient is not
rounded to a smaller number, and rounding reaches a power of two exactly from
the middle between it and the number before it.

## Main definitions

* `Rounding.Short`: At most 53 binary digits in front of zeros.
* `Rounding.IsNearest`: The short number nearest to a fraction.

## Theorems

* `Rounding.isNearest_roundUnits`: Rounding takes the nearest short number.
* `Rounding.IsNearest.unique`: There is only one.
* `Rounding.roundUnits_le_roundUnits`: Rounding keeps the order.
* `Rounding.roundUnits_mul_two_pow`: Zeros at the end do not matter.
* `Rounding.two_pow_le_roundUnits_iff`: From where on a power of two is
  reached.
-/

namespace Worksheet

namespace Rounding

/-- The number has at most 53 binary digits in front of zeros. -/
def Short (n : Nat) : Prop :=
  ∃ m s, m ≤ Nat.pow 2 53 ∧ n = m * Nat.pow 2 s

/-- The short number nearest to a fraction. Of two that are equally near it is
    the one with more zeros at its end. -/
structure IsNearest (q : ℚ) (n : Nat) : Prop where
  /-- It is short. -/
  short : Short n
  /-- No other is nearer. -/
  nearest : ∀ r, Short r → |q - n| ≤ |q - r|
  /-- One that is as near has fewer zeros. -/
  even : ∀ r, Short r → r ≠ n → |q - r| = |q - n| → ∀ k, Nat.pow 2 k ∣ r → Nat.pow 2 (k + 1) ∣ n

theorem short_mul_two_pow {m : Nat} (h : m ≤ Nat.pow 2 53) (s : Nat) : Short (m * Nat.pow 2 s) :=
  ⟨m, s, h, rfl⟩

/-- Below the limit, a significand that is short enough is all a number
    needs. -/
theorem Short.representable {n : Nat} (h : Short n) (hlt : n < unitLimit) : Representable n :=
  ⟨hlt, h⟩

theorem short_of_le {n : Nat} (h : n ≤ Nat.pow 2 53) : Short n :=
  ⟨n, 0, h, (Nat.mul_one n).symm⟩

theorem Short.mul_two_pow {n : Nat} (h : Short n) (j : Nat) : Short (n * Nat.pow 2 j) := by
  rcases h with ⟨m, s, hm, rfl⟩
  rw [Nat.mul_assoc, ← two_pow_add]
  exact short_mul_two_pow hm _

/-- Rounding leaves no more digits than a significand holds. -/
theorem short_roundUnits {num den : Nat} (hden : 0 < den) : Short (roundUnits num den) :=
  short_mul_two_pow
    (nearestQuotient_le (Nat.mul_pos hden (two_pow_pos _)) (le_significand_mul num hden)) _

/-- A quotient is at most half a unit away from what it is rounded to, and less
    than that from an odd number. -/
theorem nearestQuotient_bounds (num : Nat) {den : Nat} (hden : 0 < den) :
    2 * (nearestQuotient num den * den) + nearestQuotient num den % 2 ≤ 2 * num + den ∧
      2 * num + nearestQuotient num den % 2 ≤ 2 * (nearestQuotient num den * den) + den := by
  have hdiv : num / den * den + num % den = num := Nat.div_add_mod' num den
  have hmod : num % den < den := Nat.mod_lt num hden
  have hsucc : (num / den + 1) * den = num / den * den + den := Nat.succ_mul _ _
  simp only [nearestQuotient]
  generalize num / den = q at *
  generalize num % den = r at *
  split_ifs
  · omega
  · omega
  · -- Halfway the even one of the two is taken.
    rcases Nat.mod_two_eq_zero_or_one q with heven | hodd
    · rw [heven, Nat.add_zero, heven]
      omega
    · rw [hodd, hsucc]
      omega

section Quotient

variable {num den : Nat}

/-- A quotient is rounded by at most half the space between two numbers, and by
    less than that to an odd significand. -/
theorem abs_sub_roundUnits (num : Nat) (hden : 0 < den) :
    2 * |(num : ℚ) / den - roundUnits num den| ≤ (Nat.pow 2 (shift num den) : Nat) ∧
      (nearestQuotient num (den * Nat.pow 2 (shift num den)) % 2 = 1 →
        2 * |(num : ℚ) / den - roundUnits num den| < (Nat.pow 2 (shift num den) : Nat)) := by
  have hbounds := nearestQuotient_bounds num (Nat.mul_pos hden (two_pow_pos (shift num den)))
  have hround : roundUnits num den =
      nearestQuotient num (den * Nat.pow 2 (shift num den)) * Nat.pow 2 (shift num den) := rfl
  have hd : (0 : ℚ) < den := Nat.cast_pos.mpr hden
  have hq : (num : ℚ) / den * den = num := div_mul_cancel₀ _ hd.ne'
  rw [hround]
  generalize nearestQuotient num (den * Nat.pow 2 (shift num den)) = c at hbounds ⊢
  generalize Nat.pow 2 (shift num den) = scale at hbounds ⊢
  generalize (num : ℚ) / den = q at hq ⊢
  -- Both bounds hold times the divisor.
  have hlow : (2 * (c * (den * scale)) + (c % 2 : Nat) : ℚ) ≤ 2 * num + den * scale := by
    exact_mod_cast hbounds.1
  have hhigh : (2 * num + (c % 2 : Nat) : ℚ) ≤ 2 * (c * (den * scale)) + den * scale := by
    exact_mod_cast hbounds.2
  rw [← hq] at hlow hhigh
  have hlow' : (2 * (c * scale) + (c % 2 : Nat) / den : ℚ) ≤ 2 * q + scale := by
    rw [← mul_le_mul_iff_of_pos_right hd, add_mul, div_mul_cancel₀ _ hd.ne']
    linarith only [hlow]
  have hhigh' : (2 * q + (c % 2 : Nat) / den : ℚ) ≤ 2 * (c * scale) + scale := by
    rw [← mul_le_mul_iff_of_pos_right hd, add_mul, div_mul_cancel₀ _ hd.ne']
    linarith only [hhigh]
  have hodd : (0 : ℚ) ≤ (c % 2 : Nat) / den := div_nonneg (Nat.cast_nonneg _) hd.le
  rw [Nat.cast_mul]
  refine ⟨?_, fun h => ?_⟩
  · rw [← le_div_iff₀' two_pos, abs_le]
    exact ⟨by linarith only [hlow', hodd], by linarith only [hhigh', hodd]⟩
  · rw [h, Nat.cast_one] at hlow' hhigh'
    have hone : (0 : ℚ) < 1 / den := div_pos one_pos hd
    rw [← lt_div_iff₀' two_pos, abs_lt]
    exact ⟨by linarith only [hlow', hone], by linarith only [hhigh', hone]⟩

/-- Any other multiple is at least one space away from the chosen one, and so at
    least half of one from the quotient. It can only be as near when it is the
    next one. -/
theorem nearest_multiple (num : Nat) (hden : 0 < den) (j : Nat) :
    |(num : ℚ) / den - roundUnits num den| ≤
        |(num : ℚ) / den - (j * Nat.pow 2 (shift num den) : Nat)| ∧
      (j * Nat.pow 2 (shift num den) ≠ roundUnits num den →
        |(num : ℚ) / den - (j * Nat.pow 2 (shift num den) : Nat)| =
          |(num : ℚ) / den - roundUnits num den| →
        nearestQuotient num (den * Nat.pow 2 (shift num den)) % 2 = 0 ∧ j % 2 = 1) := by
  rcases abs_sub_roundUnits num hden with ⟨hhalf, hodd⟩
  have hround : roundUnits num den =
      nearestQuotient num (den * Nat.pow 2 (shift num den)) * Nat.pow 2 (shift num den) := rfl
  have hscale : (0 : ℚ) < (Nat.pow 2 (shift num den) : Nat) := Nat.cast_pos.mpr (two_pow_pos _)
  rw [hround] at hhalf hodd ⊢
  -- From here on only the two multiples matter, and that the quotient is at most
  -- half a step away from the chosen one.
  generalize nearestQuotient num (den * Nat.pow 2 (shift num den)) = c at hhalf hodd ⊢
  generalize Nat.pow 2 (shift num den) = scale at hhalf hodd hscale ⊢
  generalize (num : ℚ) / den = q at hhalf hodd ⊢
  have hspace : |((j * scale : Nat) : ℚ) - (c * scale : Nat)| = |(j : ℤ) - c| * scale := by
    rw [Nat.cast_mul, Nat.cast_mul, ← sub_mul, abs_mul, abs_of_pos hscale]
    push_cast
    rfl
  have htriangle := abs_sub_le ((j * scale : Nat) : ℚ) q (c * scale : Nat)
  rw [hspace, abs_sub_comm _ q] at htriangle
  by_cases hj : j = c
  · subst hj
    exact ⟨le_refl _, fun hne => absurd rfl hne⟩
  · have hone : (1 : ℤ) ≤ |(j : ℤ) - c| := Int.one_le_abs (by omega)
    have hone' : (1 : ℚ) * scale ≤ |(j : ℤ) - c| * scale :=
      mul_le_mul_of_nonneg_right (by exact_mod_cast hone) hscale.le
    refine ⟨by linarith only [htriangle, hhalf, hone'], fun _ heq => ?_⟩
    -- A multiple that is as close is the next one, since its distance from the
    -- chosen one is two halves of a step.
    have hnext : ((|(j : ℤ) - c| : ℤ) : ℚ) * scale ≤ 1 * scale := by
      linarith only [htriangle, hhalf, heq]
    have hnext' : |(j : ℤ) - c| ≤ 1 := by
      exact_mod_cast le_of_mul_le_mul_right hnext hscale
    have heven : c % 2 ≠ 1 := fun h => by
      linarith only [hodd h, htriangle, heq, hone']
    have hbeside : |(j : ℤ) - c| = 1 := le_antisymm hnext' hone
    rw [abs_eq one_pos.le] at hbeside
    omega

/-- A short number with fewer zeros than the multiples have is below all numbers
    of 53 digits whose spacing they are, and so below the quotient. -/
theorem Short.multiple_or_lt {r : Nat} (h : Short r) (num den : Nat) :
    (∃ j, r = j * Nat.pow 2 (shift num den)) ∨
      r < Nat.pow 2 52 * Nat.pow 2 (shift num den) ∧
        Nat.pow 2 52 * Nat.pow 2 (shift num den) ≤ num / den := by
  rcases h with ⟨m, s, hm, rfl⟩
  by_cases hs : shift num den ≤ s
  · refine .inl ⟨m * Nat.pow 2 (s - shift num den), ?_⟩
    rw [Nat.mul_assoc, ← two_pow_add, Nat.sub_add_cancel hs]
  · have hle : m * Nat.pow 2 s ≤ Nat.pow 2 52 * Nat.pow 2 (shift num den) := by
      calc m * Nat.pow 2 s ≤ Nat.pow 2 53 * Nat.pow 2 s := Nat.mul_le_mul_right _ hm
        _ = Nat.pow 2 (53 + s) := (two_pow_add 53 s).symm
        _ ≤ Nat.pow 2 (52 + shift num den) := two_pow_le (by omega)
        _ = Nat.pow 2 52 * Nat.pow 2 (shift num den) := two_pow_add 52 _
    -- Only the largest number with fewer zeros reaches the multiples.
    rcases Nat.lt_or_eq_of_le hle with hlt | heq
    · refine .inr ⟨hlt, ?_⟩
      have hlog : (num / den).log2 = 52 + shift num den := by
        rw [shift] at hs ⊢
        omega
      have hne : num / den ≠ 0 := by
        intro hzero
        rw [hzero, Nat.log2_zero] at hlog
        omega
      rw [← two_pow_add, ← hlog]
      exact Nat.log2_self_le hne
    · exact .inl ⟨_, heq⟩

/-- Rounding takes the nearest short number. -/
theorem isNearest_roundUnits (num : Nat) (hden : 0 < den) :
    IsNearest ((num : ℚ) / den) (roundUnits num den) := by
  -- What is short and no multiple lies further below than a multiple does.
  have hfar : ∀ r, Nat.pow 2 52 * Nat.pow 2 (shift num den) ≤ num / den →
      r < Nat.pow 2 52 * Nat.pow 2 (shift num den) →
        |(num : ℚ) / den - roundUnits num den| < |(num : ℚ) / den - r| := by
    intro r hle hlt
    have hnear := (nearest_multiple num hden (Nat.pow 2 52)).1
    have hle' : ((Nat.pow 2 52 * Nat.pow 2 (shift num den) : Nat) : ℚ) ≤ (num : ℚ) / den :=
      le_trans (Nat.cast_le.mpr hle) Nat.cast_div_le
    have hlt' : (r : ℚ) < (Nat.pow 2 52 * Nat.pow 2 (shift num den) : Nat) := Nat.cast_lt.mpr hlt
    rw [abs_of_nonneg (sub_nonneg.mpr hle')] at hnear
    rw [abs_of_nonneg (sub_nonneg.mpr (hlt'.le.trans hle'))]
    linarith only [hnear, hlt']
  refine ⟨short_roundUnits hden, fun r hr => ?_, fun r hr hne heq k hk => ?_⟩
  · rcases hr.multiple_or_lt num den with ⟨j, rfl⟩ | ⟨hlt, hle⟩
    · exact (nearest_multiple num hden j).1
    · exact (hfar r hle hlt).le
  · rcases hr.multiple_or_lt num den with ⟨j, rfl⟩ | ⟨hlt, hle⟩
    · rcases (nearest_multiple num hden j).2 hne heq with ⟨heven, hodd⟩
      -- An odd multiple has no more zeros than the space between them.
      have hks : k ≤ shift num den := by
        by_contra hlt
        have hsucc := Nat.dvd_trans (two_pow_dvd (Nat.lt_of_not_le hlt)) hk
        rw [Nat.succ_eq_add_one, Nat.add_comm, two_pow_add] at hsucc
        have htwo := Nat.dvd_of_mul_dvd_mul_right (two_pow_pos (shift num den)) hsucc
        have hone : Nat.pow 2 1 = 2 := rfl
        rw [hone] at htwo
        omega
      refine Nat.dvd_trans (two_pow_dvd (Nat.add_le_add_right hks 1)) ?_
      rw [Nat.add_comm, two_pow_add, roundUnits]
      exact Nat.mul_dvd_mul_right (Nat.dvd_of_mod_eq_zero heven) _
    · exact absurd heq (hfar r hle hlt).ne'

end Quotient

/-- There is only one nearest short number. -/
theorem IsNearest.unique {q : ℚ} {m n : Nat} (hm : IsNearest q m) (hn : IsNearest q n) :
    m = n := by
  by_contra hne
  have heq : |q - m| = |q - n| := le_antisymm (hm.nearest n hn.short) (hn.nearest m hm.short)
  -- Each would have more zeros at its end than the other.
  have hzeros : ∀ k, Nat.pow 2 k ∣ m ∧ Nat.pow 2 k ∣ n := by
    intro k
    induction k with
    | zero => exact ⟨Nat.one_dvd m, Nat.one_dvd n⟩
    | succ k ih =>
        exact ⟨hm.even n hn.short (Ne.symm hne) heq.symm k ih.2, hn.even m hm.short hne heq k ih.1⟩
  have hzero : ∀ l : Nat, Nat.pow 2 l ∣ l → l = 0 := fun l hl =>
    Nat.eq_zero_of_dvd_of_lt hl Nat.lt_two_pow_self
  exact hne ((hzero m (hzeros m).1).trans (hzero n (hzeros n).2).symm)

/-- A larger fraction is not rounded to a smaller number. -/
theorem IsNearest.le_of_le {p q : ℚ} {m n : Nat} (hm : IsNearest p m) (hn : IsNearest q n)
    (h : p ≤ q) : m ≤ n := by
  by_contra hlt
  have hlt' : (n : ℚ) < m := Nat.cast_lt.mpr (Nat.lt_of_not_le hlt)
  have hmn := hm.nearest n hn.short
  have hnm := hn.nearest m hm.short
  -- Both fractions would be in the middle, and so they would be the same.
  have hp : (m : ℚ) + n ≤ 2 * p := by
    by_contra hp
    rcases abs_cases (p - n) with ⟨habs, -⟩ | ⟨habs, -⟩ <;>
      linarith only [hmn, habs, hp, hlt', neg_le_abs (p - m)]
  have hq : 2 * q ≤ (m : ℚ) + n := by
    by_contra hq
    rcases abs_cases (q - m) with ⟨habs, -⟩ | ⟨habs, -⟩ <;>
      linarith only [hnm, habs, hq, hlt', le_abs_self (q - n)]
  have heq : p = q := by linarith only [h, hp, hq]
  exact absurd (IsNearest.unique hm (heq ▸ hn)) (by omega)

/-- Rounding keeps the order of quotients. -/
theorem roundUnits_le_roundUnits {num den num' den' : Nat} (hden : 0 < den) (hden' : 0 < den')
    (h : num * den' ≤ num' * den) : roundUnits num den ≤ roundUnits num' den' := by
  refine (isNearest_roundUnits num hden).le_of_le (isNearest_roundUnits num' hden') ?_
  rw [div_le_div_iff₀ (Nat.cast_pos.mpr hden) (Nat.cast_pos.mpr hden')]
  exact_mod_cast h

/-- A short number is the nearest one to itself. -/
theorem isNearest_self {n : Nat} (h : Short n) : IsNearest (n : ℚ) n := by
  refine ⟨h, fun r _ => ?_, fun r _ hne heq => ?_⟩
  · rw [sub_self, abs_zero]
    exact abs_nonneg _
  · rw [sub_self, abs_zero, abs_eq_zero, sub_eq_zero] at heq
    exact absurd (Nat.cast_injective heq).symm hne

/-- What is short enough already is not rounded. -/
theorem roundUnits_of_short {n : Nat} (h : Short n) : roundUnits n 1 = n := by
  have hround := isNearest_roundUnits n Nat.one_pos
  rw [Nat.cast_one, div_one] at hround
  exact hround.unique (isNearest_self h)

theorem log2_append {n j rest : Nat} (hn : n ≠ 0) (hrest : rest < Nat.pow 2 j) :
    (n * Nat.pow 2 j + rest).log2 = n.log2 + j := by
  have hne : n * Nat.pow 2 j + rest ≠ 0 := by
    have hpos := Nat.mul_ne_zero hn (two_pow_pos j).ne'
    omega
  refine (Nat.log2_eq_iff hne).mpr ⟨?_, ?_⟩
  · have hle : Nat.pow 2 n.log2 * Nat.pow 2 j ≤ n * Nat.pow 2 j :=
      Nat.mul_le_mul_right _ (Nat.log2_self_le hn)
    rw [← two_pow_add] at hle
    exact Nat.le_add_right_of_le hle
  · have hlt : (n + 1) * Nat.pow 2 j ≤ Nat.pow 2 (n.log2 + 1) * Nat.pow 2 j :=
      Nat.mul_le_mul_right _ Nat.lt_log2_self
    rw [← two_pow_add, Nat.add_right_comm, Nat.succ_mul] at hlt
    exact Nat.lt_of_lt_of_le (Nat.add_lt_add_left hrest _) hlt

theorem log2_mul_two_pow {n : Nat} (hn : n ≠ 0) (j : Nat) :
    (n * Nat.pow 2 j).log2 = n.log2 + j :=
  log2_append hn (two_pow_pos j)

/-- Zeros at the end of a whole number do not matter to its rounding. -/
theorem roundUnits_mul_two_pow (n j : Nat) :
    roundUnits (n * Nat.pow 2 j) 1 = roundUnits n 1 * Nat.pow 2 j := by
  by_cases hle : n ≤ Nat.pow 2 53
  · have hshort := short_of_le hle
    rw [roundUnits_of_short hshort, roundUnits_of_short (hshort.mul_two_pow j)]
  · have hlog : 53 ≤ n.log2 :=
      (Nat.le_log2 (by omega)).mpr (Nat.le_of_lt (Nat.lt_of_not_le hle))
    have hshift : shift (n * Nat.pow 2 j) 1 = shift n 1 + j := by
      rw [shift, shift, Nat.div_one, Nat.div_one, log2_mul_two_pow (by omega)]
      omega
    simp only [roundUnits, hshift, two_pow_add, Nat.one_mul]
    rw [nearestQuotient_mul_right _ _ (two_pow_pos j), Nat.mul_assoc]

/-- A power of two is reached from the middle between it and the short number
    before it. -/
theorem two_pow_le_roundUnits_iff {num den : Nat} (hden : 0 < den) (k : Nat) :
    Nat.pow 2 (54 + k) ≤ roundUnits num den ↔
      (Nat.pow 2 54 - 1) * Nat.pow 2 k * den ≤ num := by
  have hpow : Nat.pow 2 (54 + k) = Nat.pow 2 54 * Nat.pow 2 k := two_pow_add 54 k
  constructor
  · intro hreach
    by_contra hlt
    have hnearest := isNearest_roundUnits num hden
    generalize roundUnits num den = r at hreach hnearest
    -- The short number before the power of two is nearer than the power or what lies behind it.
    have hbefore := hnearest.nearest ((Nat.pow 2 53 - 1) * Nat.pow 2 (k + 1))
      (short_mul_two_pow (Nat.sub_le _ _) _)
    have hq : (num : ℚ) / den < ((Nat.pow 2 54 - 1) * Nat.pow 2 k : Nat) := by
      rw [div_lt_iff₀ (Nat.cast_pos.mpr hden)]
      exact_mod_cast Nat.lt_of_not_le hlt
    have hmiddle : (Nat.pow 2 54 - 1) * Nat.pow 2 k =
        (Nat.pow 2 53 - 1) * Nat.pow 2 (k + 1) + Nat.pow 2 k := by
      have h53 : Nat.pow 2 53 = 9007199254740992 := rfl
      have h54 : Nat.pow 2 54 = 18014398509481984 := rfl
      have hsucc : Nat.pow 2 (k + 1) = Nat.pow 2 k * 2 := rfl
      rw [h53, h54, hsucc]
      omega
    have hend : (Nat.pow 2 54 - 1) * Nat.pow 2 k + Nat.pow 2 k ≤ r := by
      refine Nat.le_trans (Nat.le_of_eq ?_) hreach
      rw [hpow, ← Nat.succ_mul]
    rw [hmiddle] at hq hend
    generalize (Nat.pow 2 53 - 1) * Nat.pow 2 (k + 1) = before at hbefore hq hend
    have hspace : (0 : ℚ) < (Nat.pow 2 k : Nat) := Nat.cast_pos.mpr (two_pow_pos k)
    generalize Nat.pow 2 k = space at hq hend hspace
    generalize (num : ℚ) / den = q at hbefore hq
    have hend' : (before : ℚ) + space + space ≤ r := by exact_mod_cast hend
    rw [Nat.cast_add] at hq
    rcases abs_cases (q - before) with ⟨habs, -⟩ | ⟨habs, -⟩ <;>
      linarith only [hbefore, habs, hq, hend', hspace, neg_le_abs (q - r)]
  · intro hle
    have hhalf : roundUnits ((Nat.pow 2 54 - 1) * Nat.pow 2 k) 1 = Nat.pow 2 (54 + k) := by
      have hround : roundUnits (Nat.pow 2 54 - 1) 1 = Nat.pow 2 54 := by decide
      rw [roundUnits_mul_two_pow, hround, hpow]
    rw [← hhalf]
    exact roundUnits_le_roundUnits Nat.one_pos hden (by rw [Nat.mul_one]; exact hle)

end Rounding

end Worksheet
