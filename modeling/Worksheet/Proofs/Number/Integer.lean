import Worksheet.Proofs.Number.Layout
import Worksheet.Proofs.Number.Overflow

/-!
# Integers

That integers up to `2 ^ 53` are read, computed and shown exactly.

An integer of at most 53 binary digits is its own rounding. So it is kept
wherever it is an exact result, which it is when it is read from its decimal
text and when it is computed from other integers.

To show an integer its shortest decimal is searched from the left, and nothing
is found before the zeros at its end begin. A decimal that ends further to the
left is another integer, and an even one. Even integers are short up to the one
after `2 ^ 53`, so it is rounded to itself or beyond the bound. The odd integer
after `2 ^ 53` is rounded to it, but it has as many digits and is not asked for.

## Main definitions

* `Number.IsInteger`: A number is an integer.
* `Number.IntegerText`: The decimal texts of integers.

## Theorems

* `Number.Rounds.isInteger`: An exact result that is an integer is kept.
* `Number.rounds_ofDecimal`, `Number.exists_isInteger_of_cleaned`: Reading.
* `Number.IsInteger.add`: Adding.
* `Decimal.shortest_of_integer`, `Number.IsInteger.text`: Showing.
-/

namespace Worksheet

open Rounding (Short roundUnits unitBits unitLimit)

namespace Rounding

/-- An even number that is rounded to a number up to `2 ^ 53` is that number. -/
theorem eq_of_roundUnits_eq_of_even {k n : Nat} (hk : k % 2 = 0) (hn : n ≤ 2 ^ 53)
    (h : roundUnits k 1 = n) : k = n := by
  by_cases hle : k ≤ 2 ^ 53
  · rw [← h, roundUnits_of_short (short_of_le hle)]
  · -- The next even number is short, so nothing from there on is rounded below it.
    have hnext : Short (2 ^ 53 + 2) := @short_mul_two_pow (2 ^ 52 + 1) (by decide) 1
    have hround := @roundUnits_le_roundUnits (2 ^ 53 + 2) 1 k 1 Nat.one_pos Nat.one_pos (by omega)
    rw [roundUnits_of_short hnext, h] at hround
    omega

end Rounding

namespace Number

open Decimal (unitsOfOne unitsOfOne_pos)
open Numeral (decimalValue)

/-- The number is an integer. -/
structure IsInteger (x : Number) (n : Int) : Prop where
  /-- It is finite. -/
  isFinite : x.isFinite = true
  /-- Its value is the integer. -/
  exact : x.exact = n

/-- The decimal texts of integers: digits with a sign in front of them, where
    there is one. -/
inductive IntegerText : List Char → Int → Prop where
  | intro {sign digits : List Char} {negative : Bool} (hsign : Sign sign negative)
      (hne : digits ≠ []) (hdigits : ∀ c ∈ digits, c.isDigit = true) :
      IntegerText (sign ++ digits)
        (if negative then -(decimalValue digits : Int) else decimalValue digits)

theorem exact_of_units {negative : Bool} {m : Magnitude} {n : Int}
    (hm : m.units = n.natAbs * Nat.pow 2 unitBits) (hsign : n ≠ 0 → (negative = true ↔ n < 0)) :
    (finite negative m).exact = n := by
  have hn : signedUnits negative m = n * (Nat.pow 2 unitBits : Nat) := by
    rw [signedUnits, hm, Nat.cast_mul]
    generalize ((Nat.pow 2 unitBits : Nat) : Int) = one
    by_cases hzero : n = 0
    · rw [hzero, Int.natAbs_zero, Nat.cast_zero, zero_mul, neg_zero, ite_self]
    · by_cases hneg : n < 0
      · rw [if_pos ((hsign hzero).mpr hneg), Int.ofNat_natAbs_of_nonpos hneg.le, neg_mul, neg_neg]
      · rw [if_neg (mt (hsign hzero).mp hneg), Int.natAbs_of_nonneg (not_lt.mp hneg)]
  rw [exact, hn, Int.cast_mul, Int.cast_natCast, div_eq_iff unitsOfOne_pos.ne', unitsOfOne]

/-- An exact result that is an integer is kept. -/
theorem Rounds.isInteger {z : Number} {q : ℚ} {n : Int} (h : Rounds z q) (hq : q = n)
    (hn : n.natAbs ≤ 2 ^ 53) : IsInteger z n := by
  subst hq
  rcases h with ⟨hden, hunits, hsign⟩
  rename_i negative num den
  have hshort : Short (n.natAbs * Nat.pow 2 unitBits) :=
    (Rounding.short_of_le hn).mul_two_pow unitBits
  have hlimit : n.natAbs * Nat.pow 2 unitBits < unitLimit := by
    refine Nat.lt_of_not_le fun hle => ?_
    have hlt := two_pow_lt_wholeLimit (show 53 < wholeBits by decide)
    exact absurd (Nat.lt_of_le_of_lt hn hlt) (Nat.not_lt.mpr (unitLimit_le_iff.mp hle))
  -- The exact result is short enough already, so rounding leaves it.
  have hround : roundUnits num den = n.natAbs * Nat.pow 2 unitBits := by
    rw [← Rounding.roundUnits_of_short hshort]
    refine Rounding.roundUnits_congr hden Nat.one_pos ?_
    rw [eq_div_iff (Nat.cast_ne_zero.mpr hden.ne'), unitsOfOne, ← Int.cast_abs, ← Nat.cast_natAbs]
      at hunits
    rw [Nat.mul_one]
    exact_mod_cast hunits.symm
  rw [Int.cast_ne_zero, Int.cast_lt_zero] at hsign
  have hz : ofQuotient negative num den hden = finite negative ⟨_, hshort.representable hlimit⟩ :=
    ofQuotient_eq_finite hden hround
  rw [hz]
  exact ⟨rfl, exact_of_units rfl hsign⟩

/-- A natural number of at most 53 binary digits is kept. -/
theorem isInteger_ofNat {n : Nat} (hn : n ≤ 2 ^ 53) : IsInteger (ofNat n) n := by
  have hlimit := Nat.lt_of_le_of_lt hn (two_pow_lt_wholeLimit (show 53 < wholeBits by decide))
  rcases exists_ofNat_of_short (Rounding.short_of_le hn) hlimit with ⟨m, hm, hunits⟩
  rw [hm]
  exact ⟨rfl, exact_of_units hunits fun _ =>
    iff_of_false Bool.false_ne_true (not_lt.mpr (Int.natCast_nonneg n))⟩

/-- A decimal is read as its value, rounded once. -/
theorem rounds_ofDecimal (negative : Bool) (d : Decimal) :
    Rounds (ofDecimal negative d) (if negative then -d.value else d.value) := by
  have hk : 0 ≤ d.exponent + d.exponent.natAbs := by omega
  have hvalue : 0 ≤ d.value := mul_nonneg (Nat.cast_nonneg _) (zpow_nonneg (by norm_num) _)
  rw [ofDecimal_eq_ofQuotient d hk]
  refine .intro _ ?_ fun hne => ?_
  · rw [Decimal.quotientOver_div hk, apply_ite abs, abs_neg, ite_self, abs_of_nonneg hvalue]
  · cases negative with
    | true =>
        rw [if_pos rfl, neg_ne_zero] at hne
        exact iff_of_true rfl (neg_neg_of_pos (lt_of_le_of_ne hvalue hne.symm))
    | false => exact iff_of_false Bool.false_ne_true (not_lt.mpr hvalue)

theorem IntegerText.literal? {cs : List Char} {n : Int} (h : IntegerText cs n)
    (hn : n.natAbs ≤ 2 ^ 53) : ∃ x, literal? cs = some x ∧ IsInteger x n := by
  rcases h with ⟨hsign, hne, hdigits⟩
  rename_i sign digits negative
  have hliteral := DecimalLiteral.intro hsign hdigits .missing
    (List.append_ne_nil_of_left_ne_nil hne _) .missing
  simp only [List.append_nil, List.length_nil, Nat.cast_zero, sub_zero] at hliteral
  have hinteger : IsInteger (ofDecimal negative ⟨decimalValue digits, 0⟩)
      (if negative then -(decimalValue digits : Int) else decimalValue digits) := by
    refine (rounds_ofDecimal negative _).isInteger ?_ hn
    simp only [Decimal.value, zpow_zero, mul_one, apply_ite Int.cast, Int.cast_neg,
      Int.cast_natCast]
  exact ⟨_, literal?_eq_some_iff.mpr ⟨.inr ⟨_, _, hliteral, rfl⟩, hinteger.isFinite⟩, hinteger⟩

theorem IntegerText.ne_nil {cs : List Char} {n : Int} (h : IntegerText cs n) : cs ≠ [] := by
  rcases h with ⟨-, hne, -⟩
  exact List.append_ne_nil_of_right_ne_nil _ hne

/-- Behind the first character of an integer there are only digits. -/
theorem IntegerText.isDigit_tail {cs : List Char} {n : Int} (h : IntegerText cs n) :
    ∀ c ∈ cs.tail, c.isDigit = true := by
  rcases h with ⟨hsign, -, hdigits⟩
  cases hsign with
  | missing => exact fun c hc => hdigits c (List.mem_of_mem_tail hc)
  | plus => exact hdigits
  | minus => exact hdigits

theorem IntegerText.isSign_or_isDigit {cs : List Char} {n : Int} (h : IntegerText cs n) :
    ∀ c ∈ cs, c = '+' ∨ c = '-' ∨ c.isDigit = true := by
  rcases h with ⟨hsign, -, hdigits⟩
  rw [List.forall_mem_append]
  refine ⟨?_, fun c hc => .inr (.inr (hdigits c hc))⟩
  cases hsign with
  | missing => exact fun c hc => absurd hc List.not_mem_nil
  | plus => exact List.forall_mem_singleton.mpr (.inl rfl)
  | minus => exact List.forall_mem_singleton.mpr (.inr (.inl rfl))

/-- A class without signs and digits has no character in common with an integer. -/
theorem IntegerText.eq_false {cs : List Char} {n : Int} (h : IntegerText cs n) {p : Char → Bool}
    (hplus : p '+' = false) (hminus : p '-' = false)
    (hdigit : ∀ c : Char, c.isDigit = true → p c = false) : ∀ c ∈ cs, p c = false := by
  intro c hc
  rcases h.isSign_or_isDigit c hc with rfl | rfl | hc
  · exact hplus
  · exact hminus
  · exact hdigit c hc

theorem IntegerText.isBlank_eq_false {cs : List Char} {n : Int} (h : IntegerText cs n) :
    ∀ c ∈ cs, Text.isBlank c = false :=
  h.eq_false (by decide) (by decide) fun _ hc =>
    Text.isBlank_eq_false_of_isAlphanum (Text.isAlphanum_of_isDigit hc)

theorem IntegerText.isTrimmed {cs : List Char} {n : Int} (h : IntegerText cs n) :
    Text.IsTrimmed Text.isBlank cs :=
  Text.isTrimmed_of_forall h.isBlank_eq_false

/-- Nothing of an integer is thrown away before it is read. -/
theorem IntegerText.cleaned {cs : List Char} {n : Int} (h : IntegerText cs n) :
    cleaned cs = cs := by
  have hcommas : cs.filter (· != ',') = cs := by
    refine List.filter_eq_self.mpr fun c hc => bne_iff_ne.mpr ?_
    rintro rfl
    rcases h.isSign_or_isDigit _ hc with hc | hc | hc <;> exact absurd hc (by decide)
  rw [Number.cleaned, hcommas, h.isTrimmed.trim_eq_self]

/-- A text that is an integer without its commas and blanks is read as it. -/
theorem exists_isInteger_of_cleaned {cs : List Char} {n : Int} (h : IntegerText (cleaned cs) n)
    (hn : n.natAbs ≤ 2 ^ 53) : ∃ x, ofChars? cs = some x ∧ IsInteger x n := by
  have hblank : ¬ ∀ c ∈ cs, Text.isBlank c = true := by
    intro hall
    refine h.ne_nil (Text.trim_eq_nil_iff.mpr fun c hc => hall c (List.mem_of_mem_filter hc))
  rw [ofChars?_of_not_blank hblank, if_neg h.ne_nil]
  exact h.literal? hn

/-- The sum of two integers. -/
theorem IsInteger.add {x y : Number} {a b : Int} (hx : IsInteger x a) (hy : IsInteger y b)
    (hn : (a + b).natAbs ≤ 2 ^ 53) : IsInteger (x + y) (a + b) := by
  rcases isFinite_iff.mp hx.isFinite with ⟨negative, m, rfl⟩
  rcases isFinite_iff.mp hy.isFinite with ⟨negative', n, rfl⟩
  refine rounds_add.isInteger ?_ hn
  rw [hx.exact, hy.exact, Int.cast_add]

theorem IsInteger.exists_units {x : Number} {n : Int} (h : IsInteger x n) : ∃ negative m,
    x = finite negative m ∧ m.units = n.natAbs * Nat.pow 2 unitBits ∧
      (n ≠ 0 → (negative = true ↔ n < 0)) := by
  rcases isFinite_iff.mp h.isFinite with ⟨negative, m, rfl⟩
  have hexact := h.exact
  have habs := abs_exact_finite negative m
  rw [hexact, eq_div_iff unitsOfOne_pos.ne', unitsOfOne, ← Int.cast_abs, ← Nat.cast_natAbs] at habs
  have hunits : m.units = n.natAbs * Nat.pow 2 unitBits := by exact_mod_cast habs.symm
  refine ⟨negative, m, rfl, hunits, fun hne => ?_⟩
  have hm : m.units ≠ 0 := by
    rw [hunits]
    exact Nat.mul_ne_zero (Int.natAbs_ne_zero.mpr hne) (Rounding.two_pow_pos unitBits).ne'
  rw [← exact_finite_neg_iff hm, hexact, Int.cast_lt_zero]

end Number

namespace Decimal

variable {halfway : Halfway} {m : Magnitude} {s p : Nat}

/-- At the place where a magnitude ends it is taken as it is. -/
theorem atPlace?_of_exactDigits (h : exactDigits m.units = s * Nat.pow 10 p) :
    atPlace? halfway m.units p = some s := by
  have hstep := ten_pow_pos p
  have hback := readsBack_exactDigits m
  have htakes : takesAbove halfway (Nat.pow 10 p) s 0 = false := by
    rw [takesAbove, Nat.mul_zero, decide_eq_false (Nat.not_lt_zero _), Bool.false_or,
      decide_eq_false hstep.ne, Bool.false_and]
  rw [h] at hback
  simp only [atPlace?, h, Nat.mul_div_cancel s hstep, Nat.mul_mod_left, hback, htakes]
  cases readsBack m.units ((s + 1) * Nat.pow 10 p) <;> rfl

/-- Where no decimal that ends further to the left reads back, the search ends
    with all digits of the magnitude. -/
theorem search_of_exactDigits (h : exactDigits m.units = s * Nat.pow 10 p) (hp : 0 < p)
    (hlarger : ∀ q, p < q → ∀ digits, rounded ⟨digits, q - unitBits⟩ ≠ m.units) {place : Nat}
    (hplace : p ≤ place) : search halfway m.units place = ⟨s, p - unitBits⟩ := by
  induction place, hplace using Nat.le_induction with
  | base =>
      rcases Nat.exists_eq_succ_of_ne_zero hp.ne' with ⟨p, rfl⟩
      rw [search, atPlace?_of_exactDigits h]
      rfl
  | succ place hle ih =>
      have hnone : atPlace? halfway m.units (place + 1) = none := by
        refine Option.eq_none_iff_forall_ne_some.mpr fun digits hdigits => ?_
        exact hlarger (place + 1) (Nat.lt_succ_of_le hle) digits
          (readsBack_iff.mp (readsBack_of_atPlace? hdigits))
      rw [search, hnone]
      exact ih

theorem eq_of_value_eq_of_le {s t : Nat} {i j : Int} (hs : s % 10 ≠ 0) (hle : i ≤ j)
    (h : value ⟨s, i⟩ = value ⟨t, j⟩) : s = t ∧ i = j := by
  rcases Int.le.dest hle with ⟨k, rfl⟩
  rw [← value_mul_pow, value, value] at h
  have heq : s = t * Nat.pow 10 k :=
    Nat.cast_injective (mul_right_cancel₀ (zpow_ne_zero i (by norm_num)) h)
  cases k with
  | zero => exact ⟨heq.trans (Nat.mul_one t), (add_zero i).symm⟩
  | succ k =>
      refine absurd ?_ hs
      rw [heq]
      exact Nat.mod_eq_zero_of_dvd (Nat.dvd_mul_left_of_dvd (Nat.dvd_mul_left 10 _) t)

/-- Without zeros at the end of its digits a decimal is settled by its value. -/
theorem eq_of_value_eq {s t : Nat} {i j : Int} (hs : s % 10 ≠ 0) (ht : t % 10 ≠ 0)
    (h : value ⟨s, i⟩ = value ⟨t, j⟩) : s = t ∧ i = j := by
  rcases le_total i j with hle | hle
  · exact eq_of_value_eq_of_le hs hle h
  · rcases eq_of_value_eq_of_le ht hle h.symm with ⟨hdigits, hexponent⟩
    exact ⟨hdigits.symm, hexponent.symm⟩

theorem rounded_natCast (digits k : Nat) :
    rounded ⟨digits, k⟩ = roundUnits (digits * Nat.pow 10 k) 1 * Nat.pow 2 unitBits := by
  have hk : (0 : Int) ≤ (k : Int) + (0 : Nat) := by omega
  rw [← Rounding.roundUnits_mul_two_pow]
  exact @rounded_eq_roundUnits ⟨digits, k⟩ 0 hk

/-- A decimal that ends in front of the zeros of an integer is not rounded to the
    integer. -/
theorem rounded_ne_of_integer {n s zeros place : Nat} (hn : n ≤ 2 ^ 53) (hs : s % 10 ≠ 0)
    (hzeros : n = s * Nat.pow 10 zeros) (hplace : zeros < place) (digits : Nat) :
    rounded ⟨digits, place⟩ ≠ n * Nat.pow 2 unitBits := by
  intro hround
  rcases Nat.exists_eq_add_of_lt hplace with ⟨k, rfl⟩
  rw [rounded_natCast] at hround
  have hten : Nat.pow 10 (zeros + k + 1) = Nat.pow 10 zeros * (Nat.pow 10 k * 10) := by
    rw [Nat.add_assoc, ten_pow_add]
    rfl
  have heven : digits * Nat.pow 10 (zeros + k + 1) % 2 = 0 := by
    have htwo : 2 ∣ Nat.pow 10 k * 10 := Dvd.dvd.mul_left (by decide) _
    rw [hten]
    exact Nat.mod_eq_zero_of_dvd ((htwo.mul_left _).mul_left _)
  have hsame := Rounding.eq_of_roundUnits_eq_of_even heven hn
    (Nat.eq_of_mul_eq_mul_right (Rounding.two_pow_pos unitBits) hround)
  -- The integer would end in another zero.
  refine hs (Nat.mod_eq_zero_of_dvd ⟨digits * Nat.pow 10 k, ?_⟩)
  refine Nat.eq_of_mul_eq_mul_right (ten_pow_pos zeros) ?_
  rw [← hzeros, ← hsame, hten]
  ring

/-- The shortest decimal of an integer is made of all its digits. -/
theorem shortest_of_integer {n s zeros : Nat} (hm : m.units = n * Nat.pow 2 unitBits)
    (hn : n ≤ 2 ^ 53) (hs : s % 10 ≠ 0) (hzeros : n = s * Nat.pow 10 zeros) :
    shortest halfway m = ⟨s, zeros⟩ := by
  have hexact : exactDigits m.units = s * Nat.pow 10 (zeros + unitBits) := by
    rw [exactDigits, hm, Nat.mul_assoc, ← ten_pow_eq, hzeros, Nat.mul_assoc, ← ten_pow_add]
  have hplace : zeros + unitBits ≤ top m.units := by
    have hpos : 0 < s := Nat.pos_of_ne_zero fun hzero => hs (by rw [hzero])
    have hlt := Nat.lt_of_le_of_lt (Nat.le_mul_of_pos_left (Nat.pow 10 (zeros + unitBits)) hpos)
      (Nat.lt_of_le_of_lt hexact.ge (exactDigits_lt m.units))
    exact Nat.le_of_lt_succ ((Nat.pow_lt_pow_iff_right (by decide)).mp hlt)
  have hlarger : ∀ q, zeros + unitBits < q → ∀ digits,
      rounded ⟨digits, q - unitBits⟩ ≠ m.units := by
    intro q hq digits
    have hexponent : (q : Int) - unitBits = (q - unitBits : Nat) := by omega
    rw [hexponent, hm]
    exact rounded_ne_of_integer hn hs hzeros (by omega) digits
  have hsum : ((zeros + unitBits : Nat) : Int) - unitBits = zeros := by omega
  rw [← hsum]
  exact search_of_exactDigits hexact (Nat.add_pos_right zeros (by decide)) hlarger hplace

end Decimal

namespace Number

/-- The magnitude of an integer is shown with its digits. -/
theorem magnitudeChars_of_integer {m : Magnitude} {n : Nat} (hm : m.units = n * Nat.pow 2 unitBits)
    (hne : n ≠ 0) (hn : n ≤ 2 ^ 53) : magnitudeChars m = Nat.toDigits 10 n := by
  have hunits : m.units ≠ 0 := by
    rw [hm]
    exact Nat.mul_ne_zero hne (Rounding.two_pow_pos unitBits).ne'
  rcases exists_layout_magnitudeChars hunits with ⟨t, point, hvalue, hshortest, hlayout⟩
  rcases Decimal.exists_mul_pow hne with ⟨s, zeros, hs, hzeros⟩
  rw [Decimal.shortest_of_integer hm hn hs hzeros] at hvalue
  rcases Decimal.eq_of_value_eq hshortest.last hs hvalue with ⟨rfl, hpoint⟩
  have hdigits := toDigits_mul_pow hshortest.digits_ne_zero zeros
  -- An integer up to 2⁵³ has fewer digits than the longest layout without an exponent.
  have hlength : (Nat.toDigits 10 t).length + zeros ≤ 21 := by
    have hle : Decimal.length n ≤ 21 :=
      (Decimal.length_le_iff (by decide)).mpr (Nat.lt_of_le_of_lt hn (by decide))
    rw [Decimal.length_eq, hzeros, hdigits, List.length_append, List.length_replicate] at hle
    exact hle
  have hpos : 0 < (Nat.toDigits 10 t).length := Nat.length_toDigits_pos
  rw [Decimal.length_eq] at hpoint
  rw [hzeros, hdigits]
  clear hm hunits hvalue hshortest
  generalize magnitudeChars m = cs at hlayout ⊢
  cases hlayout with
  | whole =>
      rw [hpoint, Int.toNat_natCast]
  | mixed _ _ hlt => omega
  | fraction _ hneg => omega
  | exponent hfar => omega

theorem toList_toString (n : Int) :
    (toString n).toList = signed (decide (n < 0)) (Nat.toDigits 10 n.natAbs) := by
  cases n with
  | ofNat k =>
      have hsign : decide (Int.ofNat k < 0) = false := decide_eq_false (Int.not_lt.mpr k.cast_nonneg)
      rw [hsign]
      exact Nat.toList_repr
  | negSucc k =>
      have hsign : decide (Int.negSucc k < 0) = true := decide_eq_true (Int.negSucc_lt_zero k)
      have htext : (toString (Int.negSucc k)).toList = '-' :: (Nat.repr (k + 1)).toList :=
        String.toList_append
      rw [hsign, htext, Nat.toList_repr]
      rfl

/-- Every integer has a decimal text. -/
theorem integerText_toString (n : Int) : IntegerText (toString n).toList n := by
  have hdigits := isDigit_toDigits n.natAbs
  have hvalue := Numeral.decimalValue_toDigits n.natAbs
  rw [toList_toString]
  by_cases hneg : n < 0
  · have htext := IntegerText.intro .minus Nat.toDigits_ne_nil hdigits
    rw [if_pos rfl, hvalue, Int.ofNat_natAbs_of_nonpos hneg.le, neg_neg] at htext
    rw [decide_eq_true hneg]
    exact htext
  · have htext := IntegerText.intro .missing Nat.toDigits_ne_nil hdigits
    rw [if_neg Bool.false_ne_true, hvalue, Int.natAbs_of_nonneg (not_lt.mp hneg)] at htext
    rw [decide_eq_false hneg]
    exact htext

/-- An integer is shown as an integer. -/
theorem IsInteger.text {x : Number} {n : Int} (h : IsInteger x n) (hn : n.natAbs ≤ 2 ^ 53) :
    x.text = toString n := by
  rcases h.exists_units with ⟨negative, m, rfl, hm, hsign⟩
  rw [Number.text, chars_finite]
  by_cases hzero : n = 0
  · subst hzero
    rw [Int.natAbs_zero, Nat.zero_mul] at hm
    rw [if_pos hm]
    rfl
  · have hunits : m.units ≠ 0 := by
      rw [hm]
      exact Nat.mul_ne_zero (Int.natAbs_ne_zero.mpr hzero) (Rounding.two_pow_pos unitBits).ne'
    have hneg : negative = decide (n < 0) := Bool.eq_iff_iff.mpr (by
      rw [hsign hzero, decide_eq_true_iff])
    rw [if_neg hunits, magnitudeChars_of_integer hm (Int.natAbs_ne_zero.mpr hzero) hn, hneg,
      ← String.toList_inj, String.toList_ofList, toList_toString]
    rfl

end Number

end Worksheet
