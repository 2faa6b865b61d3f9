import Worksheet.Number.Bits
import Worksheet.Proofs.Number.Printed

/-!
# Bit Patterns and Back

That no finite number loses a bit, neither as a pattern nor as a text.

The fields of a pattern give a significand and the zeros behind it, which is
held exactly, so a finite pattern is the pattern of its number. A leading one
is put in place by the exponent field and taken out by the same carry. With
this, what is said about numbers that are printed and read can be said about
bits.

## Main definitions

* `Number.exponentField`: The exponent field of a pattern.

## Theorems

* `Number.magnitudeBits_significand`: The fields of a significand.
* `Number.toBits_ofBits`: A finite pattern is that of its number.
* `Number.printed_and_read`: A finite number is printed and read without loss,
  but for the sign of zero.
-/

namespace Worksheet

namespace Number

open Rounding (Representable two_pow_pos two_pow_add two_pow_le)

/-- The exponent field of a pattern. -/
def exponentField (bits : UInt64) : Nat :=
  bits.toNat / Nat.pow 2 52 % Nat.pow 2 11

/-- A significand with few enough zeros behind it is held exactly. -/
theorem representable_significand {m k : Nat} (hm : m < Nat.pow 2 53) (hk : k ≤ 2045) :
    Representable (m * Nat.pow 2 k) := by
  have hbits : 53 + k ≤ Rounding.limitBits := by
    simp only [Rounding.limitBits]
    omega
  have hlt : m * Nat.pow 2 k < Nat.pow 2 (53 + k) := by
    rw [two_pow_add]
    exact Nat.mul_lt_mul_of_pos_right hm (two_pow_pos k)
  refine ⟨?_, m, k, Nat.le_of_lt hm, rfl⟩
  unfold Rounding.unitLimit
  exact Nat.lt_of_lt_of_le hlt (two_pow_le hbits)

theorem ofUnits_of_representable (negative : Bool) {n : Nat} (h : Representable n) :
    ofUnits negative n = finite negative ⟨n, h⟩ :=
  ofQuotient_eq_finite _ (Rounding.roundUnits_one h)

theorem magnitudeBits_fraction {f : Nat} (h : f < Nat.pow 2 52) : magnitudeBits f = f := by
  have hlog : f.log2 - 52 = 0 := by
    by_cases hzero : f = 0
    · rw [hzero, Nat.log2_zero]
    · have hlt := (Nat.log2_lt hzero).mpr h
      omega
  have hone : f / Nat.pow 2 0 = f := Nat.div_one f
  simp only [magnitudeBits, hlog, hone, Nat.zero_mul, Nat.zero_add]

/-- The leading one of a significand carries into the exponent field. -/
theorem magnitudeBits_significand {f : Nat} (h : f < Nat.pow 2 52) (k : Nat) :
    magnitudeBits ((Nat.pow 2 52 + f) * Nat.pow 2 k) = (k + 1) * Nat.pow 2 52 + f := by
  have hpos := two_pow_pos k
  have hlog : ((Nat.pow 2 52 + f) * Nat.pow 2 k).log2 = 52 + k := by
    have hne : (Nat.pow 2 52 + f) * Nat.pow 2 k ≠ 0 :=
      Nat.ne_of_gt (Nat.mul_pos (Nat.lt_of_lt_of_le (two_pow_pos 52) (Nat.le_add_right _ _)) hpos)
    have hle : Nat.pow 2 (52 + k) ≤ (Nat.pow 2 52 + f) * Nat.pow 2 k := by
      rw [two_pow_add]
      exact Nat.mul_le_mul_right _ (Nat.le_add_right _ _)
    have hlt : (Nat.pow 2 52 + f) * Nat.pow 2 k < Nat.pow 2 (53 + k) := by
      rw [two_pow_add]
      exact Nat.mul_lt_mul_of_pos_right (Nat.add_lt_add_left h (Nat.pow 2 52)) hpos
    have hsucc : 53 + k = 52 + k + 1 := by omega
    exact (Nat.log2_eq_iff hne).mpr ⟨hle, hsucc ▸ hlt⟩
  have hshift : 52 + k - 52 = k := by omega
  simp only [magnitudeBits, hlog, hshift]
  rw [Nat.mul_div_cancel _ hpos, Nat.succ_mul, Nat.add_assoc]

/-- The number of a finite pattern has the sign of the pattern, and its units
    have the fields. -/
theorem ofBits_eq_finite {bits : UInt64} (h : exponentField bits ≠ 2047) :
    ∃ m, ofBits bits = finite (decide (Nat.pow 2 63 ≤ bits.toNat)) m ∧
      magnitudeBits m.units = bits.toNat % Nat.pow 2 63 := by
  have hpow52 : Nat.pow 2 52 = 4503599627370496 := rfl
  have hpow53 : Nat.pow 2 53 = 9007199254740992 := rfl
  have hexponent : exponentField bits < 2047 := by
    have hlt : exponentField bits < Nat.pow 2 11 := Nat.mod_lt _ (two_pow_pos 11)
    exact Nat.lt_of_le_of_ne (Nat.le_of_lt_succ hlt) h
  have hfraction : bits.toNat % Nat.pow 2 52 < Nat.pow 2 52 := Nat.mod_lt _ (two_pow_pos 52)
  have hfields : bits.toNat % Nat.pow 2 63 =
      exponentField bits * Nat.pow 2 52 + bits.toNat % Nat.pow 2 52 := by
    have hpow63 : Nat.pow 2 63 = Nat.pow 2 52 * Nat.pow 2 11 := two_pow_add 52 11
    rw [exponentField, hpow63, Nat.mod_mul, Nat.mul_comm, Nat.add_comm]
  have hbits : ofBits bits = if exponentField bits = 0 then
      ofUnits (decide (Nat.pow 2 63 ≤ bits.toNat)) (bits.toNat % Nat.pow 2 52)
    else ofUnits (decide (Nat.pow 2 63 ≤ bits.toNat))
      ((Nat.pow 2 52 + bits.toNat % Nat.pow 2 52) * Nat.pow 2 (exponentField bits - 1)) :=
    if_neg h
  generalize bits.toNat % Nat.pow 2 52 = f at hfraction hfields hbits
  generalize exponentField bits = e at hexponent hfields hbits
  rw [hbits, hfields]
  by_cases hzero : e = 0
  · -- Without an exponent the fraction is the units.
    have hf : Representable f := by
      have hone := @representable_significand f 0 (by omega) (Nat.zero_le _)
      exact (Nat.mul_one f) ▸ hone
    rw [if_pos hzero, hzero, Nat.zero_mul, Nat.zero_add]
    exact ⟨_, ofUnits_of_representable _ hf, magnitudeBits_fraction hfraction⟩
  · -- With one, the fraction has a leading bit and is shifted by one place less.
    have hm := @representable_significand (Nat.pow 2 52 + f) (e - 1) (by omega) (by omega)
    have hsucc : e - 1 + 1 = e := by omega
    rw [if_neg hzero]
    refine ⟨_, ofUnits_of_representable _ hm, ?_⟩
    rw [magnitudeBits_significand hfraction, hsucc]

theorem toNat_signBit (negative : Bool) :
    (toBits.signBit negative).toNat = if negative then Nat.pow 2 63 else 0 := by
  cases negative <;> rfl

/-- A finite pattern is that of its number. -/
theorem toBits_ofBits {bits : UInt64} (h : exponentField bits ≠ 2047) :
    (ofBits bits).toBits = bits := by
  have hbits := UInt64.toNat_lt bits
  have hpow63 : Nat.pow 2 63 = 9223372036854775808 := rfl
  rcases ofBits_eq_finite h with ⟨m, hm, hmagnitude⟩
  rw [hm, toBits, hmagnitude, ← UInt64.toNat_inj, UInt64.toNat_add, toNat_signBit,
    UInt64.toNat_ofNat', hpow63]
  by_cases hnegative : 9223372036854775808 ≤ bits.toNat
  · rw [if_pos (decide_eq_true hnegative)]
    omega
  · rw [if_neg (by rw [decide_eq_true_iff]; exact hnegative)]
    omega

theorem isFinite_ofBits (bits : UInt64) :
    (ofBits bits).isFinite = decide (exponentField bits ≠ 2047) := by
  by_cases h : exponentField bits = 2047
  · have hbits : ofBits bits = if bits.toNat % Nat.pow 2 52 = 0 then
        infinity (decide (Nat.pow 2 63 ≤ bits.toNat)) else nan := if_pos h
    have hfield : decide (exponentField bits ≠ 2047) = false := decide_eq_false fun hne => hne h
    rw [hfield, hbits]
    split_ifs <;> rfl
  · rcases ofBits_eq_finite h with ⟨m, hm, -⟩
    rw [hm, decide_eq_true h]
    rfl

theorem magnitudeBits_eq_zero_iff {n : Nat} : magnitudeBits n = 0 ↔ n = 0 := by
  constructor
  · intro h
    rw [magnitudeBits, Nat.add_eq_zero_iff, Nat.mul_eq_zero] at h
    rcases h with ⟨hshift | hpow, hdiv⟩
    · rw [hshift] at hdiv
      exact (Nat.div_one n).symm.trans hdiv
    · exact absurd hpow (Nat.ne_of_gt (two_pow_pos 52))
  · rintro rfl
    exact magnitudeBits_fraction (two_pow_pos 52)

/-- A finite pattern without its sign is nothing exactly for the zeros. -/
theorem isZero_ofBits {bits : UInt64} (h : exponentField bits ≠ 2047) :
    (ofBits bits).isZero = decide (bits.toNat % Nat.pow 2 63 = 0) := by
  rcases ofBits_eq_finite h with ⟨m, hm, hmagnitude⟩
  rw [hm, ← hmagnitude]
  exact decide_eq_decide.mpr magnitudeBits_eq_zero_iff.symm

/-- What a finite pattern is read as when it was printed. -/
theorem toBits_withoutSign {bits : UInt64} (h : exponentField bits ≠ 2047) :
    (if (ofBits bits).isZero then zero false else ofBits bits).toBits =
      if bits = 0x8000000000000000 then 0 else bits := by
  have hbits := UInt64.toNat_lt bits
  have hpow63 : Nat.pow 2 63 = 9223372036854775808 := rfl
  have hsign : bits = 0x8000000000000000 ↔ bits.toNat = 9223372036854775808 :=
    UInt64.toNat_inj.symm
  rw [isZero_ofBits h, hpow63]
  by_cases hzero : bits.toNat % 9223372036854775808 = 0
  · -- There is nothing in the pattern but its sign.
    have hzeroBits : (zero false).toBits = 0 := rfl
    rw [if_pos (decide_eq_true hzero), hzeroBits]
    by_cases hnegative : bits = 0x8000000000000000
    · rw [if_pos hnegative]
    · rw [if_neg hnegative, ← UInt64.toNat_inj, UInt64.toNat_zero]
      rw [hsign] at hnegative
      omega
  · have hnegative : bits ≠ 0x8000000000000000 := by
      rw [ne_eq, hsign]
      omega
    rw [if_neg (by rw [decide_eq_true_iff]; exact hzero), if_neg hnegative, toBits_ofBits h]

/-- A number that is printed and read is the same, except that no zero has a
    sign, and what is not finite is not read. This is so for numbers, and bit
    by bit for their patterns. -/
theorem printed_and_read :
    (∀ x : Number, ofText? x.text =
      if x.isFinite then some (if x.isZero then zero false else x) else none) ∧
    ∀ bits : UInt64, (ofText? (ofBits bits).text).map toBits =
      if exponentField bits = 2047 then none
      else some (if bits = 0x8000000000000000 then 0 else bits) := by
  refine ⟨ofText?_text, fun bits => ?_⟩
  rw [ofText?_text, isFinite_ofBits]
  by_cases h : exponentField bits = 2047
  · have hfield : decide (exponentField bits ≠ 2047) = false := decide_eq_false fun hne => hne h
    rw [hfield, if_neg Bool.false_ne_true, if_pos h, Option.map_none]
  · rw [if_pos (decide_eq_true h), if_neg h, Option.map_some, toBits_withoutSign h]

end Number

end Worksheet
