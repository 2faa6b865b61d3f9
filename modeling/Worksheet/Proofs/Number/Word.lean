import Mathlib.Data.UInt

/-!
# Words as Numbers

When the arithmetic of words is that of numbers.

Words wrap, numbers do not. The indices of a sheet stay below limits that are
far from the largest word, and below a limit counting on by one, counting back
by one and making a word of a number are what they seem to be.

## Main definitions

* `index?`: The index that a longer word counts from one.

## Theorems

* `toNat_succ_of_lt`: Counting on from an index below a limit does not wrap.
* `toNat_pred`, `le_pred_iff_lt`: Counting back from a positive size does not
  wrap.
* `min_pred`: The last words in front of two sizes.
* `toNat_sub_succ`: Counting the words between two of them wraps only when
  these are all there are.
* `toNat_toUInt32_pred`, `pred_lt_and_toUInt32_pred_eq_iff`: Nor does it from a
  longer word that counts an index from one.
* `index?_eq_some_of_toNat`: A word counts the index it is one more than.
* `toNat_ofNat_of_lt`: A number below a limit survives as a word.
-/

namespace Worksheet

namespace Word

/-- Below a limit counting on by one does not wrap around. -/
theorem toNat_succ_of_lt {i limit : UInt32} (h : i < limit) : (i + 1).toNat = i.toNat + 1 := by
  have hi : i.toNat < limit.toNat := UInt32.lt_iff_toNat_lt.mp h
  have hl : limit.toNat < 2 ^ 32 := UInt32.toNat_lt limit
  rw [UInt32.toNat_add, UInt32.toNat_one]
  exact Nat.mod_eq_of_lt (by omega)

/-- Counting back by one from a positive size does not wrap around. -/
theorem toNat_pred {size : UInt32} (h : 0 < size) : (size - 1).toNat = size.toNat - 1 := by
  have hpos : 0 < size.toNat := UInt32.lt_iff_toNat_lt.mp h
  have hone : (1 : UInt32) ≤ size := by
    rw [UInt32.le_iff_toNat_le, UInt32.toNat_one]
    exact hpos
  rw [UInt32.toNat_sub_of_le _ _ hone, UInt32.toNat_one]

/-- The indices up to the last one of a size are those below it. -/
theorem le_pred_iff_lt {i size : UInt32} (h : 0 < size) : i ≤ size - 1 ↔ i < size := by
  have hpos : 0 < size.toNat := UInt32.lt_iff_toNat_lt.mp h
  rw [UInt32.le_iff_toNat_le, UInt32.lt_iff_toNat_lt, toNat_pred h]
  omega

theorem lt_min_iff {i m n : UInt32} : i < min m n ↔ i < m ∧ i < n := by
  rw [UInt32.lt_iff_toNat_lt, UInt32.toNat_min, UInt32.lt_iff_toNat_lt, UInt32.lt_iff_toNat_lt]
  exact Nat.lt_min

/-- What is cut off in front of one size and then in front of another is cut off
    in front of the smaller one. -/
theorem min_pred {i j m n : UInt32} (hm : i < m) (hn : i < n) :
    min (min j (m - 1)) (n - 1) = min j (min m n - 1) := by
  have hpos : ∀ {size : UInt32}, i < size → 0 < size := UInt32.lt_of_le_of_lt UInt32.zero_le
  rw [← UInt32.toNat_inj]
  simp only [UInt32.toNat_min, toNat_pred (hpos hm), toNat_pred (hpos hn),
    toNat_pred (hpos (lt_min_iff.mpr ⟨hm, hn⟩))]
  omega

/-- Words can count the words between two of them, unless these are all there
    are. -/
theorem toNat_sub_succ {lo hi : UInt32} (h : lo ≤ hi) :
    (hi - lo + 1).toNat = (hi.toNat - lo.toNat + 1) % UInt32.size := by
  rw [UInt32.toNat_add, UInt32.toNat_sub_of_le _ _ h, UInt32.toNat_one]

/-- The predecessor of a word of twice the length is that of its number. -/
theorem toNat_pred_long {w : UInt64} (h : 0 < w) : (w - 1).toNat = w.toNat - 1 := by
  have hpos : 0 < w.toNat := UInt64.lt_iff_toNat_lt.mp h
  have hone : (1 : UInt64) ≤ w := by
    rw [UInt64.le_iff_toNat_le, UInt64.toNat_one]
    exact hpos
  rw [UInt64.toNat_sub_of_le _ _ hone, UInt64.toNat_one]

/-- A longer word that counts an index from one, below a limit, is that index
    less one. -/
theorem toNat_toUInt32_pred {w : UInt64} {limit : UInt32} (hpos : 0 < w)
    (h : w ≤ limit.toUInt64) : (w - 1).toUInt32.toNat = w.toNat - 1 := by
  have hle : w.toNat ≤ limit.toNat := by
    rw [← UInt32.toNat_toUInt64]
    exact UInt64.le_iff_toNat_le.mp h
  have hlimit := UInt32.toNat_lt limit
  rw [UInt64.toNat_toUInt32, toNat_pred_long hpos]
  exact Nat.mod_eq_of_lt (by omega)

/-- The index that a longer word counts from one: the word less one as a short
    word, provided that neither wraps around nor loses anything. -/
def index? (w : UInt64) : Option UInt32 :=
  if 1 ≤ w ∧ (w - 1).toUInt32.toUInt64 = w - 1 then some (w - 1).toUInt32 else none

/-- The index of a word that is one more than it. -/
theorem index?_eq_some_of_toNat {w : UInt64} {i : UInt32} (h : w.toNat = i.toNat + 1) :
    index? w = some i := by
  have hone : (1 : UInt64).toNat = 1 := rfl
  have hi := UInt32.toNat_lt i
  have hpos : 1 ≤ w := by
    rw [UInt64.le_iff_toNat_le, hone]
    omega
  have hpred : (w - 1).toNat = i.toNat := by
    rw [UInt64.toNat_sub_of_le _ _ hpos, hone]
    omega
  have hcast : (w - 1).toUInt32 = i := by
    rw [← UInt32.toNat_inj, UInt64.toNat_toUInt32, hpred]
    exact Nat.mod_eq_of_lt hi
  have hback : (w - 1).toUInt32.toUInt64 = w - 1 := by
    rw [hcast, ← UInt64.toNat_inj, UInt32.toNat_toUInt64, hpred]
  rw [index?, if_pos ⟨hpos, hback⟩, hcast]

/-- A longer word is the place of an index below a limit exactly when it is one
    more than the index. -/
theorem pred_lt_and_toUInt32_pred_eq_iff {w : UInt64} {limit i : UInt32} (hpos : 0 < w) :
    w - 1 < limit.toUInt64 ∧ (w - 1).toUInt32 = i ↔ i < limit ∧ w.toNat = i.toNat + 1 := by
  have hw : 0 < w.toNat := UInt64.lt_iff_toNat_lt.mp hpos
  have hlimit := UInt32.toNat_lt limit
  rw [UInt64.lt_iff_toNat_lt, ← UInt32.toNat_inj, UInt64.toNat_toUInt32, toNat_pred_long hpos,
    UInt32.toNat_toUInt64, UInt32.lt_iff_toNat_lt]
  omega

/-- A number below a limit is the word it is made into. -/
theorem toNat_ofNat_of_lt {n : Nat} {limit : UInt32} (h : n < limit.toNat) :
    (UInt32.ofNat n).toNat = n := by
  have hl : limit.toNat < 2 ^ 32 := UInt32.toNat_lt limit
  rw [UInt32.toNat_ofNat']
  exact Nat.mod_eq_of_lt (by omega)

end Word

end Worksheet
