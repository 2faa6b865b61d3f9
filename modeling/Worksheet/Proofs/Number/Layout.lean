import Worksheet.Proofs.Number.Shortest

/-!
# Where the Point Stands

That the notation of a number can be told from its shortest decimal alone.

The rule for writing a number knows its digits and how many of them stand in
front of the point. Up to 21 digits in front of the point and up to five zeros
behind it are written out, and everything else is written with an exponent.
The printer does not count digits; it compares the number itself with a
millionth and with `10 ^ 21`. The two agree. A decimal that is not below a
power of ten is not rounded below it, and one that is below is not rounded
beyond it. It could still be rounded to the power, but then the power of ten
would be the shortest decimal of the number, with a single digit, and so the
decimal at hand would have one digit too and be at most nine tenths of the
power. That is too far away to be rounded to the same number.

## Main definitions

* `Number.Layout`: How digits with a point are written.

## Theorems

* `Decimal.value_lt_ten_zpow_iff`: A point tells which powers of ten are above.
* `Number.lt_power_iff`: Comparing the number with a power of ten is counting.
* `Number.layout_text`: Numbers are laid out by the digits of their shortest
  decimals.
-/

namespace Worksheet

namespace Decimal

/-- Where the point stands is told by the powers of ten the value is between. -/
theorem value_lt_ten_zpow_iff {s : Nat} (hs : s ≠ 0) {n j : Int} :
    value ⟨s, n - length s⟩ < 10 ^ j ↔ n ≤ j := by
  have hlower := @ten_zpow_le_value ⟨s, n - length s⟩ hs
  have hupper := value_lt_ten_zpow ⟨s, n - length s⟩
  have hfirst : (length s : Int) - 1 + (n - length s) = n - 1 := by omega
  have hlast : (length s : Int) + (n - length s) = n := by omega
  simp only [hfirst] at hlower
  simp only [hlast] at hupper
  constructor
  · intro hlt
    have hexponent := (zpow_lt_zpow_iff_right₀ (by norm_num)).mp (hlower.trans_lt hlt)
    omega
  · intro hle
    exact hupper.trans_le (zpow_le_zpow_right₀ (by norm_num) hle)

theorem IsShortest.digits_ne_zero {m : Magnitude} {d : Decimal} (h : IsShortest m d) :
    d.digits ≠ 0 := by
  intro hzero
  exact h.last (by rw [hzero])

end Decimal

namespace Number

open Decimal (IsShortest rounded value length)

variable {m : Magnitude} {s : Nat} {n : Int}

/-- Comparing a magnitude with a power of ten is counting the digits in front
    of the point of its shortest decimal, where nine tenths of the power are
    not rounded to it. -/
theorem lt_power_iff (h : IsShortest m ⟨s, n - length s⟩) {j : Int}
    (hapart : rounded ⟨9, j - 1⟩ < rounded ⟨1, j⟩) :
    (finite false m).lt (ofDecimal false ⟨1, j⟩) = true ↔ n ≤ j := by
  have hback := ofDecimal_eq_finite_iff.mp h.readsBack
  have hvalue := @Decimal.value_lt_ten_zpow_iff s h.digits_ne_zero n j
  rw [← Decimal.value_one] at hvalue
  rw [lt_ofDecimal_iff, ← hvalue, ← hback]
  constructor
  · intro hlt
    by_contra hle
    exact absurd (Decimal.rounded_le_rounded (le_of_not_gt hle)) (Nat.not_le.mpr hlt)
  · intro hlt
    refine Nat.lt_of_le_of_ne (Decimal.rounded_le_rounded hlt.le) fun heq => ?_
    -- The power is a decimal with one digit that reads back.
    have hone : length 1 = 1 := rfl
    have hlength : length s ≤ length 1 :=
      h.minimal ⟨1, j⟩ (ofDecimal_eq_finite_iff.mpr (heq.symm.trans hback))
    rw [hone] at hlength
    have hdigit : s < 10 := (Decimal.length_le_iff Nat.one_pos).mp hlength
    have hlength' : length s = 1 := le_antisymm hlength (Decimal.length_pos s)
    have hnine : value ⟨s, n - length s⟩ ≤ value ⟨9, j - 1⟩ := by
      have hs : (s : ℚ) ≤ 9 := by exact_mod_cast Nat.le_of_lt_succ hdigit
      have hpoint := hvalue.mp hlt
      have hexponent : n - ((1 : Nat) : Int) ≤ j - 1 := by omega
      rw [value, value, hlength']
      exact mul_le_mul hs (zpow_le_zpow_right₀ (by norm_num) hexponent)
        (zpow_nonneg (by norm_num) _) (by norm_num)
    exact absurd heq ((Decimal.rounded_le_rounded hnine).trans_lt hapart).ne

/-- How digits with a point behind the first `n` of them are written. -/
inductive Layout (digits : List Char) (n : Int) : List Char → Prop where
  /-- A whole number, with zeros up to the point. -/
  | whole (hdigits : digits.length ≤ n) (hn : n ≤ 21) :
      Layout digits n (digits ++ List.replicate (n - digits.length).toNat '0')
  /-- The point stands among the digits. -/
  | mixed (hpos : 0 < n) (hn : n ≤ 21) (hdigits : n < digits.length) :
      Layout digits n (digits.take n.toNat ++ '.' :: digits.drop n.toNat)
  /-- There are zeros behind the point. -/
  | fraction (hn : -6 < n) (hneg : n ≤ 0) :
      Layout digits n ('0' :: '.' :: (List.replicate (-n).toNat '0' ++ digits))
  /-- One digit stands in front of the point, and there is an exponent with a
      sign. -/
  | exponent (hn : n ≤ -6 ∨ 21 < n) :
      Layout digits n (digits.take 1 ++ (if 1 < digits.length then '.' :: digits.drop 1 else []) ++
        'e' :: (if n - 1 < 0 then '-' else '+') :: Nat.toDigits 10 (n - 1).natAbs)

/-- Neither of the two bounds has a number next to it that is rounded to it. -/
theorem rounded_nine_lt : rounded ⟨9, -7⟩ < rounded ⟨1, -6⟩ ∧ rounded ⟨9, 20⟩ < rounded ⟨1, 21⟩ := by
  decide +kernel

theorem layout_positional {digits : List Char} (hne : digits ≠ []) (hlow : -6 < n)
    (hhigh : n ≤ 21) : Layout digits n (positional digits n) := by
  have hlength := List.length_pos_iff.mpr hne
  unfold positional
  split_ifs with hbelow hwhole
  · have hzeros : n.natAbs = (-n).toNat := by omega
    rw [hzeros]
    exact .fraction hlow hbelow
  · have hzeros : n.toNat - digits.length = (n - digits.length).toNat := by omega
    rw [hzeros]
    exact .whole (by omega) hhigh
  · exact .mixed (by omega) hhigh (by omega)

theorem layout_scientific {digits : List Char} (hn : n ≤ -6 ∨ 21 < n) :
    Layout digits n (scientific digits n) := by
  have hlayout := @Layout.exponent digits n hn
  have hfraction : (if digits.length ≤ 1 then [] else '.' :: digits.drop 1) =
      if 1 < digits.length then '.' :: digits.drop 1 else [] := by
    split_ifs <;> first | rfl | omega
  rw [scientific, hfraction]
  exact hlayout

/-- Which of the two ways of writing is taken can be told from the shortest
    decimal. -/
theorem exists_layout_magnitudeChars (hm : m.units ≠ 0) : ∃ s n,
    value ⟨s, n - length s⟩ = (Decimal.shortest .above m).value ∧
      IsShortest m ⟨s, n - length s⟩ ∧ Layout (Nat.toDigits 10 s) n (magnitudeChars m) := by
  rcases Decimal.exists_isShortest .above hm with ⟨s, n, hdigits, hvalue, hshortest⟩
  have hlow : (finite false m).lt positionalFrom = true ↔ n ≤ -6 :=
    lt_power_iff hshortest rounded_nine_lt.1
  have hhigh : (finite false m).lt positionalBelow = true ↔ n ≤ 21 :=
    lt_power_iff hshortest rounded_nine_lt.2
  refine ⟨s, n, hvalue, hshortest, ?_⟩
  unfold magnitudeChars
  simp only [hdigits, Bool.and_eq_true, Bool.not_eq_true', Bool.eq_false_iff, ne_eq, hlow, hhigh]
  split_ifs with h
  · exact layout_positional Nat.toDigits_ne_nil (by omega) h.2
  · exact layout_scientific (by omega)

/-- A finite number that is not zero is written by the digits of its shortest
    decimal and where the point stands, with a minus if it is negative. The
    decimal does not end in a zero, it reads back as the number, and no decimal
    with fewer digits does. -/
theorem layout_text (negative : Bool) {m : Magnitude} (hm : m.units ≠ 0) : ∃ s n cs,
    value ⟨s, n - length s⟩ = (Decimal.shortest .above m).value ∧
      IsShortest m ⟨s, n - length s⟩ ∧ Layout (Nat.toDigits 10 s) n cs ∧
      (finite negative m).text = String.ofList (signed negative cs) := by
  rcases exists_layout_magnitudeChars hm with ⟨s, n, hvalue, hshortest, hlayout⟩
  refine ⟨s, n, magnitudeChars m, hvalue, hshortest, hlayout, ?_⟩
  rw [text, chars_finite, if_neg hm]
  rfl

/-- The negative number nearest to zero, which has a single unit. -/
theorem layout_text_least : ∃ m : Magnitude, m.units = 1 ∧ m.units ≠ 0 ∧ ∃ s n cs,
    value ⟨s, n - length s⟩ = (Decimal.shortest .above m).value ∧
      IsShortest m ⟨s, n - length s⟩ ∧ Layout (Nat.toDigits 10 s) n cs ∧
      (finite true m).text = String.ofList (signed true cs) := by
  have hlimit : 1 < Rounding.unitLimit := by
    have htwo := @Rounding.two_pow_le 1 Rounding.limitBits (by decide)
    unfold Rounding.unitLimit
    exact Nat.lt_of_lt_of_le Nat.one_lt_two htwo
  have hshort : Rounding.Short 1 := Rounding.short_of_le (by decide)
  exact ⟨⟨1, hshort.representable hlimit⟩, rfl, Nat.one_ne_zero, layout_text true Nat.one_ne_zero⟩

end Number

end Worksheet
