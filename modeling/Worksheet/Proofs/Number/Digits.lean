import Mathlib.Data.UInt
import Worksheet.Number.Digits
import Worksheet.Proofs.Text.Blank

/-!
# Numerals without End

That reading a numeral into a word loses nothing but what does not fit, and
that the printed digits of a number are read as that number.

Digits are read one at a time, and a number that has reached the largest word
stays there. The result is the word of the number that all the digits denote,
or the largest one: giving up at every step is giving up once at the end. So a
reference with too many letters or digits is as good as one at the largest
word, and never comes back to a place that exists.

## Theorems

* `toNat_saturate`: A saturated number is the least of itself and the largest.
* `toNat_saturate_eq_succ_iff`: Saturating is not noticed by an index.
* `saturated_eq_saturate_value`: Reading digit by digit is saturating once.
* `decimalValue_append`: Digits behind others move them to the left.
* `decimalValue_toDigits`: Printed digits denote what was printed.
* `toDigits_decimalValue`: Digits are printed without the zeros in front.
-/

namespace Worksheet

namespace Numeral

/-- A number that is too large for a word becomes the largest word. -/
theorem toNat_saturate (n : Nat) : (saturate n).toNat = min n (UInt64.size - 1) := by
  have hsize : UInt64.size = 18446744073709551616 := rfl
  rw [saturate]
  by_cases h : n < UInt64.size
  · rw [if_pos h, UInt64.toNat_ofNat_of_lt' h]
    omega
  · have hlargest : largest.toNat = UInt64.size - 1 := rfl
    rw [if_neg h, hlargest]
    omega

/-- Two numbers become the same word when they agree up to the largest word. -/
theorem saturate_eq_iff {m n : Nat} :
    saturate m = saturate n ↔ min m (UInt64.size - 1) = min n (UInt64.size - 1) := by
  rw [← toNat_saturate, ← toNat_saturate, UInt64.toNat_inj]

/-- The largest word counts no index of 32 bits from one, and neither does what
    it stands for. -/
theorem toNat_saturate_eq_succ_iff {n : Nat} {i : UInt32} :
    (saturate n).toNat = i.toNat + 1 ↔ n = i.toNat + 1 := by
  have hsize : UInt64.size = 18446744073709551616 := rfl
  have hi := UInt32.toNat_lt i
  rw [toNat_saturate]
  omega

/-- Once a digit was lost there is nothing that brings the number down again,
    since a radix is at least one. -/
theorem saturate_append {radix : Nat} (hradix : 0 < radix) (n d : Nat) :
    saturate ((saturate n).toNat * radix + d) = saturate (n * radix + d) := by
  rw [saturate_eq_iff, toNat_saturate]
  by_cases h : n ≤ UInt64.size - 1
  · rw [Nat.min_eq_left h]
  · have hn : n ≤ n * radix := Nat.le_mul_of_pos_right n hradix
    have hmax : UInt64.size - 1 ≤ (UInt64.size - 1) * radix := Nat.le_mul_of_pos_right _ hradix
    have hcap : min n (UInt64.size - 1) = UInt64.size - 1 := by omega
    rw [hcap]
    omega

/-- Saturating at every digit is saturating once, at the end. -/
theorem saturated_eq_saturate_value {radix : Nat} (hradix : 0 < radix) (digits : List Nat) :
    saturated radix digits = saturate (value radix digits) := by
  -- Digits behind any number, read with and without an end.
  have hfold : ∀ n, digits.foldl (fun acc d => saturate (acc.toNat * radix + d)) (saturate n) =
      saturate (digits.foldl (fun acc d => acc * radix + d) n) := by
    induction digits with
    | nil => intro n; rfl
    | cons d digits ih =>
        intro n
        rw [List.foldl_cons, List.foldl_cons, saturate_append hradix]
        exact ih (n * radix + d)
  exact hfold 0

/-- One more digit multiplies the value by the radix and adds to it. -/
theorem value_concat (radix : Nat) (digits : List Nat) (d : Nat) :
    value radix (digits ++ [d]) = value radix digits * radix + d := by
  simp only [value, List.foldl_append, List.foldl_cons, List.foldl_nil]

/-- The digits in front count as many places further to the left as there are
    digits behind. -/
theorem value_append (radix : Nat) (front back : List Nat) :
    value radix (front ++ back) =
      value radix front * Nat.pow radix back.length + value radix back := by
  -- The digits at the end are read behind any number.
  have hfold : ∀ n, back.foldl (fun acc d => acc * radix + d) n =
      n * Nat.pow radix back.length + value radix back := by
    induction back with
    | nil => exact fun n => (Nat.mul_one n).symm
    | cons d back ih =>
        intro n
        have hpow : Nat.pow radix (back.length + 1) = Nat.pow radix back.length * radix := rfl
        rw [value, List.foldl_cons, List.foldl_cons, ih, ih (0 * radix + d), List.length_cons, hpow,
          Nat.zero_mul, Nat.zero_add, Nat.add_mul, Nat.add_assoc, Nat.mul_assoc,
          Nat.mul_comm radix]
  rw [value, List.foldl_append]
  exact hfold _

/-- The value of decimal digits in front of others is scaled by a power of
    ten. -/
theorem decimalValue_append (front back : List Char) : decimalValue (front ++ back) =
    decimalValue front * Nat.pow 10 back.length + decimalValue back := by
  rw [decimalValue, List.map_append, value_append, List.length_map]
  rfl

theorem decimalValue_zeros (k : Nat) : decimalValue (List.replicate k '0') = 0 := by
  induction k with
  | zero => rfl
  | succ k ih => exact ih

/-- Zeros in front do not count. -/
theorem decimalValue_zeros_append (k : Nat) (digits : List Char) :
    decimalValue (List.replicate k '0' ++ digits) = decimalValue digits := by
  rw [decimalValue_append, decimalValue_zeros, Nat.zero_mul, Nat.zero_add]

/-- Zeros at the end multiply by a power of ten. -/
theorem decimalValue_append_zeros (digits : List Char) (k : Nat) :
    decimalValue (digits ++ List.replicate k '0') = decimalValue digits * Nat.pow 10 k := by
  rw [decimalValue_append, decimalValue_zeros, Nat.add_zero, List.length_replicate]

/-- A printed number has its own value. -/
theorem decimalValue_toDigits (n : Nat) : decimalValue (Nat.toDigits 10 n) = n := by
  -- The digits are read by the same fold, up to the order of the factors.
  have hread := @Nat.ofDigitChars_toDigits 10 n (by decide) (by decide)
  rw [Nat.ofDigitChars_eq_foldl] at hread
  simp only [decimalValue, value, List.foldl_map, decimalDigit, Nat.mul_comm _ 10]
  exact hread

theorem decimalValue_concat (digits : List Char) (d : Char) :
    decimalValue (digits ++ [d]) = decimalValue digits * 10 + decimalDigit d := by
  rw [decimalValue, List.map_append, List.map_cons, List.map_nil, value_concat, decimalValue]

/-- The digits of radix ten are less than ten. -/
theorem decimalDigit_lt {d : Char} (h : d.isDigit = true) : decimalDigit d < 10 := by
  rw [Text.isDigit_iff] at h
  have hzero : '0'.toNat = 48 := rfl
  rw [decimalDigit, hzero]
  omega

/-- A digit is the character of its value. -/
theorem digitChar_decimalDigit {d : Char} (h : d.isDigit = true) :
    Nat.digitChar (decimalDigit d) = d := by
  have hlt := decimalDigit_lt h
  rw [Text.isDigit_iff] at h
  have hzero : '0'.toNat = 48 := rfl
  rw [← Char.toNat_inj, Nat.toNat_digitChar_of_lt_ten hlt, decimalDigit, hzero]
  omega

/-- Only the character zero is worth zero. -/
theorem decimalDigit_eq_zero_iff {d : Char} (h : d.isDigit = true) :
    decimalDigit d = 0 ↔ (d == '0') = true := by
  rw [beq_iff_eq]
  constructor
  · intro hd
    rw [← digitChar_decimalDigit h, hd]
    rfl
  · rintro rfl
    rfl

/-- Digits are all zeros exactly when they are worth nothing. -/
theorem dropWhile_zeros_eq_nil_iff {digits : List Char} (h : ∀ d ∈ digits, d.isDigit = true) :
    digits.dropWhile (· == '0') = [] ↔ decimalValue digits = 0 := by
  rw [List.dropWhile_eq_nil_iff]
  induction digits using List.reverseRecOn with
  | nil => simp only [List.not_mem_nil, false_implies, implies_true, true_iff]; rfl
  | append_singleton digits d ih =>
      simp only [List.mem_append, List.mem_singleton, or_imp, forall_and, forall_eq] at h ⊢
      rw [ih h.1, decimalValue_concat, ← decimalDigit_eq_zero_iff h.2]
      omega

/-- The number that digits denote is printed as these digits without the zeros
    in front of them. -/
theorem toDigits_decimalValue {digits : List Char} (h : ∀ d ∈ digits, d.isDigit = true)
    (hpos : 0 < decimalValue digits) :
    Nat.toDigits 10 (decimalValue digits) = digits.dropWhile (· == '0') := by
  -- Digits are taken off the end, where printing puts them on.
  induction digits using List.reverseRecOn with
  | nil => exact absurd hpos (Nat.lt_irrefl 0)
  | append_singleton digits d ih =>
      simp only [List.mem_append, List.mem_singleton, or_imp, forall_and, forall_eq] at h
      have hd := decimalDigit_lt h.2
      have hlast : Nat.toDigits 10 (decimalDigit d) = [d] := by
        rw [Nat.toDigits_of_lt_base hd, digitChar_decimalDigit h.2]
      rw [decimalValue_concat] at hpos ⊢
      rw [List.dropWhile_append]
      by_cases hzero : decimalValue digits = 0
      · have hnonzero : (d == '0') ≠ true := by
          rw [ne_eq, ← decimalDigit_eq_zero_iff h.2]
          omega
        rw [if_pos (List.isEmpty_iff.mpr ((dropWhile_zeros_eq_nil_iff h.1).mpr hzero)), hzero,
          Nat.zero_mul, Nat.zero_add, hlast, List.dropWhile_cons, if_neg hnonzero]
      · have hrest : (digits.dropWhile (· == '0')).isEmpty ≠ true := by
          rw [ne_eq, List.isEmpty_iff, dropWhile_zeros_eq_nil_iff h.1]
          exact hzero
        rw [if_neg hrest, ← ih h.1 (Nat.pos_of_ne_zero hzero), ← hlast, Nat.mul_comm,
          Nat.toDigits_append_toDigits (by decide) (Nat.pos_of_ne_zero hzero) hd]

end Numeral

end Worksheet
