import Mathlib.Tactic.Ring
import Worksheet.Proofs.Number.Decimal
import Worksheet.Proofs.Number.Nearest
import Worksheet.Proofs.Number.Printed

/-!
# The Shortest Decimal Is Shortest

That no decimal with fewer digits reads back.

A decimal is rounded by its value, and a larger value not to a smaller number,
so the decimals that read back as one magnitude have no gap between them. The
magnitude is itself one of them. If any multiple of a power of ten reads back,
then so does one of the two around the magnitude, and the search asks for no
others.

A decimal with fewer digits than the one that is found would either be a
multiple of a larger power of ten, at a place where the search found nothing,
or lie on the other side of the power of ten in front of the magnitude or
behind it. That power would then read back, and the first place is where it
stands.

## Main definitions

* `Decimal.value`: The value of a decimal.
* `Decimal.rounded`: The number of units a decimal is rounded to.
* `Decimal.IsShortest`: No decimal with fewer digits reads back.

## Theorems

* `Decimal.rounded_le_rounded`: Decimals are rounded in order.
* `Decimal.atPlace?_ne_none`: A place with a decimal that reads back is found.
* `Number.significantDigits_mul_pow`: The significant digits of a decimal.
* `Decimal.exists_isShortest`: The shortest decimal without its zeros is
  shortest.
-/

namespace Worksheet

open Rounding (roundUnits unitBits unitLimit IsNearest isNearest_roundUnits)

namespace Decimal

/-- The value of a decimal. -/
def value (d : Decimal) : ℚ :=
  d.digits * 10 ^ d.exponent

/-- The number of units that a decimal is rounded to. -/
def rounded (d : Decimal) : Nat :=
  roundUnits (Number.quotientOver d.digits d.exponent d.exponent.natAbs)
    (Nat.pow 10 d.exponent.natAbs)

theorem value_mul_pow (digits j : Nat) (exponent : Int) :
    value ⟨digits * Nat.pow 10 j, exponent⟩ = value ⟨digits, exponent + j⟩ := by
  have hpow : ((Nat.pow 10 j : Nat) : ℚ) = 10 ^ (j : ℤ) := by
    rw [Nat.pow_eq, Nat.cast_pow, Nat.cast_ofNat, zpow_natCast]
  rw [value, value, Nat.cast_mul, hpow, add_comm exponent, zpow_add₀ (by norm_num), mul_assoc]

/-- A decimal without places behind the point is a natural number. -/
theorem value_natCast (digits k : Nat) : value ⟨digits, k⟩ = (digits * Nat.pow 10 k : Nat) := by
  have hvalue := value_mul_pow digits k 0
  rw [zero_add] at hvalue
  rw [← hvalue, value, zpow_zero, mul_one]

/-- The number of units in one. -/
def unitsOfOne : ℚ :=
  (Nat.pow 2 unitBits : Nat)

theorem unitsOfOne_pos : 0 < unitsOfOne :=
  Nat.cast_pos.mpr (Rounding.two_pow_pos unitBits)

/-- Over a power of ten that makes it whole, a decimal is its value in units. -/
theorem quotientOver_div {d : Decimal} {k : Nat} (hk : 0 ≤ d.exponent + k) :
    (Number.quotientOver d.digits d.exponent k : ℚ) / (Nat.pow 10 k : Nat) =
      d.value * unitsOfOne := by
  have hpow : ((Nat.pow 10 (d.exponent + k).toNat : Nat) : ℚ) = 10 ^ d.exponent * 10 ^ (k : ℤ) := by
    rw [Nat.pow_eq, Nat.cast_pow, Nat.cast_ofNat, ← zpow_natCast, Int.toNat_of_nonneg hk,
      zpow_add₀ (by norm_num)]
  have hpow' : ((Nat.pow 10 k : Nat) : ℚ) = 10 ^ (k : ℤ) := by
    rw [Nat.pow_eq, Nat.cast_pow, Nat.cast_ofNat, zpow_natCast]
  have hne : (10 : ℚ) ^ (k : ℤ) ≠ 0 := zpow_ne_zero _ (by norm_num)
  rw [Number.quotientOver, Nat.cast_mul, Nat.cast_mul, hpow, hpow', value, unitsOfOne,
    div_eq_iff hne]
  ring

/-- A decimal is rounded to the nearest number of units. -/
theorem isNearest_rounded (d : Decimal) :
    IsNearest (d.value * unitsOfOne) d.rounded := by
  rw [← quotientOver_div (show 0 ≤ d.exponent + d.exponent.natAbs by omega)]
  exact isNearest_roundUnits _ (ten_pow_pos _)

theorem short_rounded (d : Decimal) : Rounding.Short d.rounded :=
  (isNearest_rounded d).short

/-- Decimals are rounded in the order of their values. -/
theorem rounded_le_rounded {d e : Decimal} (h : d.value ≤ e.value) : d.rounded ≤ e.rounded := by
  have hd := isNearest_rounded d
  have he := isNearest_rounded e
  exact hd.le_of_le he (mul_le_mul_of_nonneg_right h unitsOfOne_pos.le)

/-- Two decimals of one value round alike. -/
theorem rounded_eq_of_value_eq {d e : Decimal} (h : d.value = e.value) : d.rounded = e.rounded :=
  le_antisymm (rounded_le_rounded h.le) (rounded_le_rounded h.ge)

/-- Between two decimals that are rounded alike all are. -/
theorem rounded_eq_of_between {d e f : Decimal} (hd : d.value ≤ e.value) (hf : e.value ≤ f.value)
    (h : d.rounded = f.rounded) : e.rounded = f.rounded :=
  le_antisymm (rounded_le_rounded hf) (le_of_eq_of_le h.symm (rounded_le_rounded hd))

end Decimal

namespace Number

/-- A decimal is worth its rounded units, or an infinity past the limit. -/
theorem ofDecimal_eq_ofQuotient_rounded (negative : Bool) (d : Decimal) :
    ofDecimal negative d = if h : d.rounded < unitLimit then
      finite negative ⟨d.rounded, d.short_rounded.representable h⟩
    else infinity negative :=
  ofDecimal_eq_ofQuotient d (show 0 ≤ d.exponent + d.exponent.natAbs by omega)

/-- A decimal reads as a finite number exactly when it rounds to its units. -/
theorem ofDecimal_eq_finite_iff {negative : Bool} {d : Decimal} {m : Magnitude} :
    ofDecimal negative d = finite negative m ↔ d.rounded = m.units := by
  rw [ofDecimal_eq_ofQuotient_rounded]
  rcases m with ⟨units, hunits⟩
  constructor
  · intro h
    split_ifs at h with hlt
    rw [finite.injEq, Magnitude.mk.injEq] at h
    exact h.2
  · rintro rfl
    exact dif_pos hunits.1

/-- A magnitude is below a decimal when it has fewer units than that is rounded
    to. -/
theorem lt_ofDecimal_iff {m : Magnitude} {d : Decimal} :
    (finite false m).lt (ofDecimal false d) = true ↔ m.units < d.rounded := by
  rw [ofDecimal_eq_ofQuotient_rounded]
  split_ifs with hlt
  · have hunits : (finite false m).lt (finite false ⟨d.rounded,
        (Rounding.short_roundUnits (Decimal.ten_pow_pos _)).representable hlt⟩) =
          decide ((m.units : Int) < d.rounded) := rfl
    rw [hunits, decide_eq_true_iff]
    exact Int.ofNat_lt
  · exact iff_of_true rfl (Nat.lt_of_lt_of_le m.representable.1 (Nat.le_of_not_lt hlt))

/-- Zeros at the end of a number are zeros at the end of its digits. -/
theorem toDigits_mul_pow {s : Nat} (hs : s ≠ 0) (zeros : Nat) :
    Nat.toDigits 10 (s * Nat.pow 10 zeros) = Nat.toDigits 10 s ++ List.replicate zeros '0' := by
  induction zeros with
  | zero =>
      have hone : s * Nat.pow 10 0 = s := Nat.mul_one s
      rw [hone, List.replicate_zero, List.append_nil]
  | succ zeros ih =>
      have hpos : 0 < s * Nat.pow 10 zeros :=
        Nat.mul_pos (Nat.pos_of_ne_zero hs) (Decimal.ten_pow_pos zeros)
      have hsucc : s * Nat.pow 10 (zeros + 1) = 10 * (s * Nat.pow 10 zeros) + 0 := by
        have hpow : Nat.pow 10 (zeros + 1) = Nat.pow 10 zeros * 10 := rfl
        rw [hpow, ← Nat.mul_assoc, Nat.mul_comm _ 10, Nat.add_zero]
      have hzero : Nat.toDigits 10 0 = ['0'] := rfl
      rw [hsucc, ← Nat.toDigits_append_toDigits (by decide) hpos (by decide), ih, hzero,
        List.append_assoc, ← List.replicate_succ']

theorem getLast?_toDigits {s : Nat} (hs : s % 10 ≠ 0) :
    ∀ c ∈ (Nat.toDigits 10 s).getLast?, (c == '0') = false := by
  have hdigit : ∀ d, d < 10 → d ≠ 0 → (d.digitChar == '0') = false := by decide
  intro c hc
  by_cases hlt : s < 10
  · rw [Nat.toDigits_of_lt_base hlt, List.getLast?_singleton, Option.mem_some_iff] at hc
    exact hc ▸ hdigit s hlt (by omega)
  · rw [Nat.toDigits_of_base_le (by decide) (Nat.le_of_not_lt hlt), List.getLast?_concat,
      Option.mem_some_iff] at hc
    exact hc ▸ hdigit (s % 10) (Nat.mod_lt s (by decide)) hs

/-- The significant digits of a decimal are those in front of its zeros. -/
theorem significantDigits_mul_pow {s : Nat} (hs : s % 10 ≠ 0) (zeros : Nat) (exponent : Int) :
    significantDigits ⟨s * Nat.pow 10 zeros, exponent⟩ =
      (Nat.toDigits 10 s, (Nat.toDigits 10 s).length + zeros + exponent) := by
  have hne : s ≠ 0 := by
    rintro rfl
    exact hs rfl
  have hzeros : ∀ c ∈ List.replicate zeros '0', (c == '0') = true := by
    intro c hc
    rw [List.eq_of_mem_replicate hc]
    rfl
  have hlast : ∀ c ∈ (Nat.toDigits 10 s).reverse.head?, (c == '0') = false := by
    rw [List.head?_reverse]
    exact getLast?_toDigits hs
  have htrim : Text.trimRight (· == '0') (Nat.toDigits 10 s ++ List.replicate zeros '0') =
      Nat.toDigits 10 s := by
    rw [Text.trimRight, List.reverse_append, List.reverse_replicate,
      List.dropWhile_append_of_pos hzeros, Text.dropWhile_eq_self hlast, List.reverse_reverse]
  simp only [significantDigits, toDigits_mul_pow hne, htrim, List.length_append,
    List.length_replicate, Nat.cast_add]

end Number

namespace Decimal

/-- Every decimal with digits has its zeros at the end. -/
theorem exists_mul_pow {n : Nat} (hn : n ≠ 0) : ∃ s zeros, s % 10 ≠ 0 ∧ n = s * Nat.pow 10 zeros := by
  induction n using Nat.strong_induction_on with
  | _ n ih =>
    by_cases hlast : n % 10 = 0
    · rcases ih (n / 10) (by omega) (by omega) with ⟨s, zeros, hs, heq⟩
      refine ⟨s, zeros + 1, hs, ?_⟩
      have hpow : Nat.pow 10 (zeros + 1) = Nat.pow 10 zeros * 10 := rfl
      rw [hpow, ← Nat.mul_assoc, ← heq]
      omega
    · exact ⟨n, 0, hlast, (Nat.mul_one n).symm⟩

theorem rounded_eq_roundUnits {d : Decimal} {k : Nat} (hk : 0 ≤ d.exponent + k) :
    d.rounded = roundUnits (Number.quotientOver d.digits d.exponent k) (Nat.pow 10 k) := by
  have hround := isNearest_roundUnits (Number.quotientOver d.digits d.exponent k) (ten_pow_pos k)
  rw [quotientOver_div hk] at hround
  exact (isNearest_rounded d).unique hround

/-- The search asks how a decimal is rounded. -/
theorem readsBack_iff {units digits place : Nat} :
    readsBack units (digits * Nat.pow 10 place) = true ↔
      rounded ⟨digits, place - unitBits⟩ = units := by
  have hk : (0 : Int) ≤ (place : Int) - unitBits + unitBits := by omega
  have hsum : ((place : Int) - unitBits + unitBits).toNat = place := by omega
  have hround := @rounded_eq_roundUnits ⟨digits, place - unitBits⟩ unitBits hk
  rw [Number.quotientOver, hsum] at hround
  -- Counting in units takes the twos out of the tens.
  have htens := Rounding.roundUnits_mul_right (digits * Nat.pow 10 place) (Nat.pow 5 unitBits)
    (Rounding.two_pow_pos unitBits)
  rw [Nat.mul_comm (Nat.pow 5 unitBits), ← ten_pow_eq, ← hround] at htens
  rw [readsBack, decide_eq_true_iff, htens]

variable {halfway : Halfway} {m : Magnitude}

/-- The magnitude is a decimal that is rounded to itself. -/
theorem rounded_exactDigits (m : Magnitude) :
    rounded ⟨exactDigits m.units, (0 : Nat) - unitBits⟩ = m.units := by
  have hone : exactDigits m.units * Nat.pow 10 0 = exactDigits m.units := Nat.mul_one _
  have hback := readsBack_exactDigits m
  rw [← hone] at hback
  exact readsBack_iff.mp hback

theorem value_le_value {digits digits' place place' : Nat}
    (h : digits * Nat.pow 10 place ≤ digits' * Nat.pow 10 place') :
    value ⟨digits, place - unitBits⟩ ≤ value ⟨digits', place' - unitBits⟩ := by
  have hplace : ∀ d p : Nat, value ⟨d, (p : Int) - unitBits⟩ =
      (d * Nat.pow 10 p : Nat) * (10 : ℚ) ^ (-(unitBits : Int)) := by
    intro d p
    have hsum : (p : Int) - unitBits = -(unitBits : Int) + p := by omega
    rw [hsum, ← value_mul_pow, value]
  rw [hplace, hplace]
  exact mul_le_mul_of_nonneg_right (Nat.cast_le.mpr h) (zpow_nonneg (by norm_num) _)

/-- The choice fails only when neither neighbour reads back. -/
theorem choose_ne_none {nearerAbove readsBelow readsAbove : Bool} {below : Nat}
    (h : readsBelow = true ∨ readsAbove = true) :
    choose nearerAbove below readsBelow readsAbove ≠ none := by
  rcases h with rfl | rfl
  · cases readsAbove <;> exact Option.some_ne_none _
  · cases readsBelow <;> exact Option.some_ne_none _

/-- Where a multiple of a power of ten reads back, one of the two around the
    magnitude does. -/
theorem atPlace?_ne_none {digits place : Nat} (h : rounded ⟨digits, place - unitBits⟩ = m.units) :
    atPlace? halfway m.units place ≠ none := by
  have hself := rounded_exactDigits m
  have hsplit := Nat.div_add_mod' (exactDigits m.units) (Nat.pow 10 place)
  have hrest := Nat.mod_lt (exactDigits m.units) (ten_pow_pos place)
  have hone : exactDigits m.units * Nat.pow 10 0 = exactDigits m.units := Nat.mul_one _
  refine choose_ne_none ?_
  rw [readsBack_iff, readsBack_iff]
  generalize exactDigits m.units / Nat.pow 10 place = below at hsplit
  by_cases hle : digits ≤ below
  · have hbelow := @value_le_value _ _ place place (Nat.mul_le_mul_right _ hle)
    have hunder := @value_le_value below (exactDigits m.units) place 0 (by omega)
    exact .inl ((rounded_eq_of_between hbelow hunder (h.trans hself.symm)).trans hself)
  · have habove := @value_le_value _ _ place place
      (Nat.mul_le_mul_right (Nat.pow 10 place) (Nat.lt_of_not_le hle))
    have hsucc : (below + 1) * Nat.pow 10 place = below * Nat.pow 10 place + Nat.pow 10 place :=
      Nat.succ_mul _ _
    have hover := @value_le_value (exactDigits m.units) (below + 1) 0 place (by omega)
    exact .inr ((rounded_eq_of_between hover habove (hself.trans h.symm)).trans h)

/-- Where the search ends, and that it found nothing before. -/
theorem exists_search_eq (halfway : Halfway) (units place : Nat) : ∃ digits p : Nat,
    p ≤ place ∧ search halfway units place = ⟨digits, p - unitBits⟩ ∧
      digits ≤ exactDigits units / Nat.pow 10 p + 1 ∧
      ∀ q, p < q → q ≤ place → atPlace? halfway units q = none := by
  induction place with
  | zero =>
      have hone : exactDigits units / Nat.pow 10 0 = exactDigits units := Nat.div_one _
      refine ⟨exactDigits units, 0, Nat.le_refl 0, ?_, ?_, fun q hq hle => by omega⟩
      · rw [search, Int.natCast_zero, Int.zero_sub]
      · rw [hone]
        exact Nat.le_succ _
  | succ place ih =>
      rw [search]
      cases hplace : atPlace? halfway units (place + 1) with
      | some digits =>
          refine ⟨digits, place + 1, Nat.le_refl _, rfl, ?_, fun q hq hle => by omega⟩
          rw [atPlace?] at hplace
          rcases choose_eq_some hplace with ⟨rfl, -⟩ | ⟨rfl, -⟩
          · exact Nat.le_succ _
          · exact Nat.le_refl _
      | none =>
          -- Nothing is found here, so the search goes on with the place below.
          rcases ih with ⟨digits, p, hp, hsearch, hdigits, hnone⟩
          refine ⟨digits, p, by omega, hsearch, hdigits, fun q hq hle => ?_⟩
          rcases Nat.lt_or_eq_of_le hle with hlt | rfl
          · exact hnone q hq (Nat.le_of_lt_succ hlt)
          · exact hplace

theorem length_eq (n : Nat) : length n = (Nat.toDigits 10 n).length := by
  rw [length, ← String.length_toList, Nat.toList_repr]

theorem length_pos (n : Nat) : 0 < length n :=
  length_eq n ▸ Nat.length_toDigits_pos

theorem length_le_iff {n k : Nat} (hk : 0 < k) : length n ≤ k ↔ n < Nat.pow 10 k := by
  rw [length_eq, Nat.length_toDigits_le_iff (by decide) hk]
  exact Iff.rfl

theorem lt_ten_pow_length (n : Nat) : n < Nat.pow 10 (length n) :=
  (length_le_iff (length_pos n)).mp (Nat.le_refl _)

theorem ten_pow_le {n : Nat} (hn : n ≠ 0) : Nat.pow 10 (length n - 1) ≤ n := by
  by_cases hone : length n - 1 = 0
  · rw [hone]
    exact Nat.pos_of_ne_zero hn
  · by_contra hlt
    have hle := (length_le_iff (Nat.pos_of_ne_zero hone)).mpr (Nat.lt_of_not_le hlt)
    omega

/-- A number up to a power of ten has no more significant digits than the
    numbers below it. -/
theorem length_significantDigits_le {n k : Nat} (hn : n ≠ 0) (hk : 0 < k) (h : n ≤ Nat.pow 10 k)
    (exponent : Int) : (Number.significantDigits ⟨n, exponent⟩).1.length ≤ k := by
  rcases exists_mul_pow hn with ⟨s, zeros, hs, rfl⟩
  rw [Number.significantDigits_mul_pow hs, ← length_eq, length_le_iff hk]
  refine Nat.lt_of_le_of_ne (Nat.le_trans (Nat.le_mul_of_pos_right s (ten_pow_pos zeros)) h) ?_
  -- The power itself ends in a zero.
  rintro rfl
  have hten : Nat.pow 10 1 ∣ Nat.pow 10 k := Nat.pow_dvd_pow 10 hk
  exact hs (Nat.mod_eq_zero_of_dvd hten)

theorem value_one (exponent : Int) : value ⟨1, exponent⟩ = 10 ^ exponent := by
  rw [value, Nat.cast_one, one_mul]

/-- A decimal lies below the power of ten in front of its first digit. -/
theorem value_lt_ten_zpow (d : Decimal) : d.value < 10 ^ ((length d.digits : Int) + d.exponent) := by
  have hlt : (d.digits : ℚ) < 10 ^ (length d.digits : Int) := by
    rw [zpow_natCast]
    exact_mod_cast lt_ten_pow_length d.digits
  rw [value, zpow_add₀ (by norm_num)]
  exact mul_lt_mul_of_pos_right hlt (zpow_pos (by norm_num) _)

/-- A decimal that is not zero is at least the power of ten of its first
    digit. -/
theorem ten_zpow_le_value {d : Decimal} (hd : d.digits ≠ 0) :
    10 ^ ((length d.digits : Int) - 1 + d.exponent) ≤ d.value := by
  have hle : (10 : ℚ) ^ ((length d.digits : Int) - 1) ≤ d.digits := by
    have hcast : ((length d.digits : Int) - 1) = (length d.digits - 1 : Nat) := by
      have := length_pos d.digits
      omega
    rw [hcast, zpow_natCast]
    exact_mod_cast ten_pow_le hd
  rw [value, zpow_add₀ (by norm_num)]
  exact mul_le_mul_of_nonneg_right hle (zpow_nonneg (by norm_num) _)

/-- The first place of the search: that of the leading digit. -/
def top (units : Nat) : Nat :=
  length (exactDigits units) - 1

theorem exactDigits_ne_zero (hm : m.units ≠ 0) : exactDigits m.units ≠ 0 :=
  Nat.mul_ne_zero hm (five_pow_pos unitBits).ne'

/-- The exact digits of a number reach up to the top place. -/
theorem ten_pow_top_le (hm : m.units ≠ 0) : Nat.pow 10 (top m.units) ≤ exactDigits m.units :=
  ten_pow_le (exactDigits_ne_zero hm)

/-- The exact digits of a number do not reach above the top place. -/
theorem exactDigits_lt (units : Nat) : exactDigits units < Nat.pow 10 (top units + 1) := by
  rw [top, Nat.sub_add_cancel (length_pos _)]
  exact lt_ten_pow_length _

/-- Otherwise one of the two powers would lie between the decimal and the
    magnitude. -/
theorem ten_zpow_lt_value (hm : m.units ≠ 0) (hnone : atPlace? halfway m.units (top m.units) = none)
    {d : Decimal} (hd : d.rounded = m.units) : (10 : ℚ) ^ ((top m.units : Int) - unitBits) < d.value := by
  by_contra hle
  have hself := rounded_exactDigits m
  have hpower := @value_le_value 1 (exactDigits m.units) (top m.units) 0 (by
    rw [Nat.one_mul]
    exact (ten_pow_top_le hm).trans (Nat.mul_one _).ge)
  have hunder : d.value ≤ value ⟨1, (top m.units : Int) - unitBits⟩ := by
    rw [value_one]
    exact le_of_not_gt hle
  have hback := (rounded_eq_of_between hunder hpower (hd.trans hself.symm)).trans hself
  exact atPlace?_ne_none hback hnone

theorem digits_ne_zero (hm : m.units ≠ 0) {d : Decimal} (hd : d.rounded = m.units) :
    d.digits ≠ 0 := by
  rcases d with ⟨digits, exponent⟩
  rintro rfl
  have hread := (@Number.ofDecimal_eq_finite_iff false _ m).mpr hd
  rw [Number.ofDecimal_zero, Number.zero, Number.finite.injEq] at hread
  exact hm (hread.2 ▸ rfl)

/-- The digits that are printed read back as the number, whichever neighbour a
    tie takes. -/
theorem rounded_shortest (halfway : Halfway) (m : Magnitude) :
    (shortest halfway m).rounded = m.units :=
  Number.ofDecimal_eq_finite_iff.mp (Number.ofDecimal_shortest false halfway m)

/-- No decimal that is rounded to the magnitude has fewer digits than the
    shortest has significant ones. -/
theorem length_significantDigits_shortest (hm : m.units ≠ 0) {d : Decimal}
    (hd : d.rounded = m.units) :
    (Number.significantDigits (shortest halfway m)).1.length ≤ length d.digits := by
  rcases exists_search_eq halfway m.units (top m.units) with
    ⟨digits, p, hp, hsearch, hdigits, hnone⟩
  have hshortest : shortest halfway m = ⟨digits, p - unitBits⟩ := hsearch
  have hne : digits ≠ 0 := by
    have hshort := digits_ne_zero hm (rounded_shortest halfway m)
    rw [hshortest] at hshort
    exact hshort
  have hbound : digits ≤ Nat.pow 10 (top m.units + 1 - p) := by
    have hdiv : exactDigits m.units / Nat.pow 10 p < Nat.pow 10 (top m.units + 1 - p) := by
      rw [Nat.div_lt_iff_lt_mul (ten_pow_pos p), ← ten_pow_add, Nat.sub_add_cancel (by omega)]
      exact exactDigits_lt m.units
    omega
  rw [hshortest]
  refine (length_significantDigits_le hne (by omega) hbound _).trans ?_
  by_contra hlt
  have hpositive := length_pos d.digits
  -- The search went past the first place, so the decimal is not below the power of ten there. With
  -- so few digits it is a multiple of a power of ten that was passed.
  have hlower := ten_zpow_lt_value hm (hnone (top m.units) (by omega) (Nat.le_refl _)) hd
  have hexponent := (zpow_lt_zpow_iff_right₀ (by norm_num)).mp (hlower.trans (value_lt_ten_zpow d))
  have hplace : d.exponent = ((p + 1 : Nat) : Int) - unitBits +
      (d.exponent - ((p + 1 : Nat) : Int) + unitBits).toNat := by
    omega
  have hmultiple : rounded ⟨d.digits * Nat.pow 10 (d.exponent - ((p + 1 : Nat) : Int) +
      unitBits).toNat, ((p + 1 : Nat) : Int) - unitBits⟩ = m.units := by
    rw [rounded_eq_of_value_eq (value_mul_pow _ _ _), ← hplace, hd]
  exact atPlace?_ne_none hmultiple (hnone (p + 1) (Nat.lt_succ_self p) (by omega))

/-- The decimal reads back as the magnitude, without a zero at its end, and no
    decimal with fewer digits does. -/
structure IsShortest (m : Magnitude) (d : Decimal) : Prop where
  /-- The last digit is not zero. -/
  last : d.digits % 10 ≠ 0
  /-- It reads back. -/
  readsBack : Number.ofDecimal false d = .finite false m
  /-- Nothing with fewer digits reads back. -/
  minimal : ∀ e : Decimal, Number.ofDecimal false e = .finite false m →
    length d.digits ≤ length e.digits

/-- The shortest decimal of a magnitude without the zeros at its end is
    shortest. -/
theorem exists_isShortest (halfway : Halfway) (hm : m.units ≠ 0) : ∃ s n,
    Number.significantDigits (shortest halfway m) = (Nat.toDigits 10 s, n) ∧
      value ⟨s, n - length s⟩ = (shortest halfway m).value ∧ IsShortest m ⟨s, n - length s⟩ := by
  have hback := rounded_shortest halfway m
  have hlength := fun {d} => @length_significantDigits_shortest halfway m hm d
  have hne := digits_ne_zero hm hback
  generalize shortest halfway m = d at hback hlength hne ⊢
  rcases d with ⟨digits, exponent⟩
  rcases exists_mul_pow hne with ⟨s, zeros, hs, hdigits⟩
  simp only at hdigits
  subst hdigits
  have hpoint : (length s + zeros + exponent) - length s = exponent + zeros := by omega
  rw [Number.significantDigits_mul_pow hs, ← length_eq] at hlength ⊢
  refine ⟨s, length s + zeros + exponent, rfl, ?_, hs, ?_, fun e he => ?_⟩
  · rw [hpoint, value_mul_pow]
  · rw [Number.ofDecimal_eq_finite_iff, hpoint, ← hback]
    exact rounded_eq_of_value_eq (value_mul_pow _ _ _).symm
  · exact hlength (Number.ofDecimal_eq_finite_iff.mp he)

end Decimal

end Worksheet
