import Mathlib.Data.Nat.Digits.Defs
import Worksheet.Proofs.Address.Column
import Worksheet.Proofs.Text.Case

/-!
# The Numeral System of Columns

Column letters as a numeral system in its own right, and how far the words that
hold its numbers reach.

The digits of a column numeral run from one to twenty-six, so there is none for
zero and every number but zero has one numeral in capitals. The number of some
letters is the sum of their digits times powers of the radix. A reader that
keeps it in a word gives that number as long as it fits, and the largest word
from there on: letters that are too long stay too large, however many more
follow. So printing is undone by reading for every index there is, and reading
by printing as far as an index reaches.

The limit of the axis is far below the largest word. Letters name a column
exactly if their number is within the limit, and the column is named by these
letters alone, in either case.

## Theorems

* `value_eq_ofDigits`: The number of some letters as a sum of powers.
* `number?_eq_none_iff`: The texts that have no number.
* `toNat_of_number?`: The number that is read, up to the largest word.
* `number?_letters`: The number of printed letters.
* `letters_of_number?`: The letters of a number that was read.
* `ofLetters_eq_ok_iff_capitals`: The names of a column within the limit.
* `letters_and_numbers`: The whole system.
-/

namespace Worksheet

namespace Column

variable {cs : List Char} {col : UInt32} {n : UInt64}

/-- The last letter has the lowest place. -/
theorem value_eq_ofDigits (cs : List Char) :
    value cs = Nat.ofDigits 26 (cs.map letterValue).reverse := by
  rw [Nat.ofDigits_eq_foldr, List.foldr_reverse, value, Numeral.value]
  simp only [Nat.cast_id, Nat.mul_comm, Nat.add_comm]

/-- Letters count the same in either case. -/
theorem value_capitals (cs : List Char) : value (Text.capitals cs) = value cs := by
  have hletter : letterValue ∘ Char.toUpper = letterValue := by
    funext c
    rw [Function.comp_apply, letterValue, Text.ignoresCase_toUpper, letterValue]
  rw [value, Text.capitals, List.map_map, hletter, value]

theorem isNumeral_capitals_iff : IsNumeral (Text.capitals cs) ↔ IsNumeral cs := by
  rw [IsNumeral, IsNumeral, ne_eq, ne_eq, Text.capitals_eq_nil_iff, Text.capitals]
  simp only [List.forall_mem_map, Text.ignoresCase_isAlpha _]

/-- The texts without a number are the empty one and those with something other
    than letters. -/
theorem number?_eq_none_iff : number? cs = none ↔ cs = [] ∨ ∃ c ∈ cs, c.isAlpha = false := by
  have hnone : number? cs = none ↔ ¬ IsNumeral cs := by
    rw [Option.eq_none_iff_forall_ne_some]
    refine ⟨fun h hcs => h _ (number?_eq_some_iff.mpr ⟨hcs, rfl⟩), fun h n hn => ?_⟩
    exact h (number?_eq_some_iff.mp hn).1
  rw [hnone, IsNumeral, not_and_or, not_not, not_forall]
  simp only [Classical.not_imp, Bool.not_eq_true]

/-- The number of some letters is their value, or the largest word. -/
theorem toNat_of_number? (h : number? cs = some n) :
    n.toNat = min (value cs) (UInt64.size - 1) := by
  rw [← (number?_eq_some_iff.mp h).2, Numeral.toNat_saturate]

/-- What is printed for an index is read as the index counted from one. -/
theorem number?_letters (col : UInt32) :
    ∃ n, number? (letters col) = some n ∧ n.toNat = col.toNat + 1 := by
  refine ⟨_, number?_eq_some_iff.mpr ⟨isNumeral_numeral col.toNat, rfl⟩, ?_⟩
  rw [Numeral.toNat_saturate_eq_succ_iff, letters, value_numeral]

/-- A number that counts an index from one is printed as the letters that it was
    read from, as capitals. -/
theorem letters_of_number? (h : number? cs = some n) (hn : n.toNat ≤ UInt32.size) :
    letters (n - 1).toUInt32 = Text.capitals cs := by
  rcases number?_eq_some_iff.mp h with ⟨hcs, -⟩
  have hvalue := toNat_of_number? h
  have hpos := hcs.value_pos
  have hsize : UInt32.size = 4294967296 := rfl
  have hlong : UInt64.size = 18446744073709551616 := rfl
  -- The number has not reached the largest word, so it is that of the letters.
  have hexact : n.toNat = value cs := by omega
  have hword : 0 < n := by
    rw [UInt64.lt_iff_toNat_lt, UInt64.toNat_zero]
    omega
  have hindex : (n - 1).toUInt32.toNat + 1 = value cs := by
    rw [UInt64.toNat_toUInt32, Word.toNat_pred_long hword, Nat.mod_eq_of_lt (by omega)]
    omega
  rw [letters, hindex, numeral_value hcs.2, Text.capitals]

/-- Letters are read as an index within the limit if they are what is printed
    for it, but for their case. -/
theorem ofLetters_eq_ok_iff_capitals :
    ofLetters cs = .ok col ↔ Text.capitals cs = letters col ∧ col < maxCols := by
  rw [ofLetters_eq_ok_iff, ← and_assoc]
  refine and_congr_left fun _ => ⟨fun h => ?_, fun h => ?_⟩
  · rw [letters, ← h.2, numeral_value h.1.2, Text.capitals]
  · rw [← isNumeral_capitals_iff, ← value_capitals, h, letters, value_numeral]
    exact ⟨isNumeral_numeral col.toNat, rfl⟩

/-- Letters name a column when their value is within the limit. -/
theorem exists_ofLetters_iff (h : IsNumeral cs) :
    (∃ col, ofLetters cs = .ok col) ↔ value cs ≤ maxCols.toNat := by
  have hpos := h.value_pos
  simp only [ofLetters_eq_ok_iff, h, true_and, UInt32.lt_iff_toNat_lt]
  constructor
  · rintro ⟨col, hvalue, hlt⟩
    omega
  · intro hle
    have hword := @Word.toNat_ofNat_of_lt (value cs - 1) maxCols (by omega)
    exact ⟨UInt32.ofNat (value cs - 1), by omega, by omega⟩

/-- A text has no number exactly if it is empty or holds something other than
    letters; else its number is that which its digits denote in radix
    twenty-six, or the largest word if that is less. What is printed for an
    index is read as the index counted from one, and what is printed for a number
    that counts an index is what it was read from, in capitals. Letters name a
    column exactly if what they denote is within the limit, and no others name
    the same one. -/
theorem letters_and_numbers (cs : List Char) :
    (number? cs = none ↔ cs = [] ∨ ∃ c ∈ cs, c.isAlpha = false) ∧
    (∀ n, number? cs = some n →
      n.toNat = min (Nat.ofDigits 26 (cs.map letterValue).reverse) (UInt64.size - 1)) ∧
    (∀ col, ∃ n, number? (letters col) = some n ∧ n.toNat = col.toNat + 1) ∧
    (∀ n, number? cs = some n → n.toNat ≤ UInt32.size →
      letters (n - 1).toUInt32 = Text.capitals cs) ∧
    (IsNumeral cs → ((∃ col, ofLetters cs = .ok col) ↔
      Nat.ofDigits 26 (cs.map letterValue).reverse ≤ maxCols.toNat)) ∧
    ∀ col, ofLetters cs = .ok col ↔ Text.capitals cs = letters col ∧ col < maxCols := by
  rw [← value_eq_ofDigits]
  exact ⟨number?_eq_none_iff, fun n => toNat_of_number?, number?_letters,
    fun n => letters_of_number?, exists_ofLetters_iff, fun col => ofLetters_eq_ok_iff_capitals⟩

/-- The last column there is, the one behind it, and letters whose number would
    come back to the first column in a word that wraps around. -/
theorem letters_and_numbers_limits :
    number? "xFD".toList = some 16384 ∧ letters 16383 = "XFD".toList ∧
      (∃ col, ofLetters "xFD".toList = .ok col) ∧ (¬ ∃ col, ofLetters "XFE".toList = .ok col) ∧
      ∃ n, number? "GKGWBYLWRXTLPQ".toList = some n ∧ n.toNat = UInt64.size - 1 := by
  have hread : number? "xFD".toList = some 16384 := by decide
  have hlong : number? "GKGWBYLWRXTLPQ".toList = some Numeral.largest := by decide
  rcases letters_and_numbers "xFD".toList with ⟨-, -, -, hprinted, hlast, -⟩
  rcases letters_and_numbers "XFE".toList with ⟨-, -, -, -, hnext, -⟩
  rcases letters_and_numbers "GKGWBYLWRXTLPQ".toList with ⟨-, hnumber, -, -, -, -⟩
  refine ⟨hread, hprinted _ hread (by decide), (hlast (by decide)).mpr (by decide), ?_, _, hlong, ?_⟩
  · rw [hnext (by decide)]
    decide
  · rw [hnumber _ hlong]
    decide

end Column

end Worksheet
