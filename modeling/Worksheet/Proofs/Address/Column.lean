import Worksheet.Proofs.Formula.Reference
import Worksheet.Proofs.Number.Word

/-!
# Letters and Indices of Columns

That the letters of a column name that column, and no other letters name a
column beyond the limit as one within it.

The printed letters are the numeral of the index counted from one, digit by
digit, so reading them back is an induction along the division by the radix.
Reading in turn goes through a word in which long numerals all end up at the
largest one. The largest word lies beyond every limit, so an index is read
exactly from the numerals that denote it.

## Theorems

* `value_numeral`: The letters of a number denote it.
* `numeral_value`: They are the only capital letters that do.
* `isNumeral_numeral`: They are letters, and there are some.
* `ofLetters_eq_ok_iff`: The letters that name an index.
-/

namespace Worksheet

namespace Column

/-- There are few enough letters to look at all of them. -/
theorem letterValue_ofNat {k : Nat} (hk : k < 26) :
    letterValue (Char.ofNat ('A'.toNat + k)) = k + 1 ∧
      (Char.ofNat ('A'.toNat + k)).isAlpha = true := by
  have hall : ∀ k < 26, letterValue (Char.ofNat ('A'.toNat + k)) = k + 1 ∧
      (Char.ofNat ('A'.toNat + k)).isAlpha = true := by decide
  exact hall k hk

/-- A numeral that was written for a number has that value. -/
theorem value_numeral (n : Nat) : value (numeral n) = n := by
  fun_induction numeral n with
  | case1 => rfl
  | case2 n ih =>
      have hdigit := (letterValue_ofNat (Nat.mod_lt n (by decide : 0 < 26))).1
      simp only [value, List.map_append, List.map_cons, List.map_nil, Numeral.value_concat,
        hdigit] at ih ⊢
      omega

/-- The small letters are in the same table as the capital ones. -/
theorem exists_letterValue {c : Char} (h : c.isAlpha = true) :
    ∃ k < 26, letterValue c = k + 1 ∧ Char.ofNat ('A'.toNat + k) = c.toUpper := by
  have hall : ∀ n < 128, (Char.ofNat n).isAlpha = true →
      letterValue (Char.ofNat n) - 1 < 26 ∧
        letterValue (Char.ofNat n) = letterValue (Char.ofNat n) - 1 + 1 ∧
        Char.ofNat ('A'.toNat + (letterValue (Char.ofNat n) - 1)) = (Char.ofNat n).toUpper := by
    decide
  have hlt : c.toNat < 128 := by
    rw [Text.isAlpha_iff] at h
    omega
  have hc := hall c.toNat hlt
  rw [Char.ofNat_toNat] at hc
  exact ⟨_, hc h⟩

/-- The letters of the number that letters denote are these letters as
    capitals. -/
theorem numeral_value {cs : List Char} (h : ∀ c ∈ cs, c.isAlpha = true) :
    numeral (value cs) = cs.map Char.toUpper := by
  induction cs using List.reverseRecOn with
  | nil =>
      rw [value, List.map_nil, List.map_nil, Numeral.value, List.foldl_nil, numeral]
  | append_singleton cs c ih =>
      simp only [List.mem_append, List.mem_singleton, or_imp, forall_and, forall_eq] at h
      rcases exists_letterValue h.2 with ⟨k, hk, hvalue, hupper⟩
      have hconcat : value (cs ++ [c]) = value cs * 26 + k + 1 := by
        rw [value, List.map_append, List.map_cons, List.map_nil, Numeral.value_concat, hvalue]
        rfl
      have hdiv : (value cs * 26 + k) / 26 = value cs := by omega
      have hmod : (value cs * 26 + k) % 26 = k := by omega
      rw [hconcat, numeral, hdiv, hmod, ih h.1, hupper, List.map_append, List.map_cons,
        List.map_nil]

theorem isNumeral_numeral (n : Nat) : IsNumeral (numeral (n + 1)) := by
  have halpha : ∀ c ∈ numeral (n + 1), c.isAlpha = true := by
    generalize n + 1 = n
    fun_induction numeral n with
    | case1 => simp only [List.not_mem_nil, false_implies, implies_true]
    | case2 n ih =>
        intro c hc
        rcases List.mem_append.mp hc with hc | hc
        · exact ih c hc
        · rw [List.mem_singleton.mp hc]
          exact (letterValue_ofNat (Nat.mod_lt n (by decide))).2
  refine ⟨?_, halpha⟩
  rw [numeral]
  exact List.append_ne_nil_of_right_ne_nil _ (List.cons_ne_nil _ _)

/-- Columns are counted from one. -/
theorem IsNumeral.value_pos {cs : List Char} (h : IsNumeral cs) : 0 < value cs := by
  rcases List.eq_nil_or_concat cs with hnil | ⟨front, c, rfl⟩
  · exact absurd hnil h.1
  · -- The last letter alone counts for one at least.
    simp only [value, List.concat_eq_append, List.map_append, List.map_cons, List.map_nil,
      Numeral.value_concat, letterValue]
    omega

/-- An index is read from the letters that denote it, counted from one. -/
theorem ofLetters_eq_ok_iff {cs : List Char} {col : UInt32} :
    ofLetters cs = .ok col ↔ IsNumeral cs ∧ value cs = col.toNat + 1 ∧ col < maxCols := by
  unfold ofLetters
  cases hn : number? cs with
  | none =>
      simp only [reduceCtorEq, false_iff]
      rintro ⟨hcs, -⟩
      rw [number?_eq_some_iff.mpr ⟨hcs, rfl⟩] at hn
      exact absurd hn (by simp only [reduceCtorEq, not_false_eq_true])
  | some n =>
      rcases number?_eq_some_iff.mp hn with ⟨hcs, hvalue⟩
      have hpos : 0 < n := by
        have hle := hcs.value_pos
        have hsize : UInt64.size = 18446744073709551616 := rfl
        rw [UInt64.lt_iff_toNat_lt, ← hvalue, Numeral.toNat_saturate, UInt64.toNat_zero]
        omega
      -- A value that is saturated is beyond the limit before and after.
      have hindex := @Word.pred_lt_and_toUInt32_pred_eq_iff n maxCols col hpos
      rw [← hvalue, Numeral.toNat_saturate_eq_succ_iff, hvalue] at hindex
      rw [and_comm (a := value cs = col.toNat + 1), ← hindex]
      by_cases hlt : n - 1 < maxCols.toUInt64
      · simp only [hlt, if_true, Except.ok.injEq, hcs, true_and]
      · simp only [hlt, if_false, reduceCtorEq, false_and, and_false]

end Column

end Worksheet
