import Worksheet.Proofs.Number.Word
import Worksheet.Sheet.Basic

/-!
# Cells under Change

What each change of a sheet does to the cells it stores, to the text seen at
every address, and to the size.

The stored cells and the seen texts are two views of one map. A stored cell
is seen as its text and everything else as the empty text, so a sheet that
stores no empty text can be read back from what it shows. The lemmas come in
both views: the stored one carries invariants, the seen one carries
comparisons with a plain function from addresses to texts.

An address that is not the changed one keeps what it had. That is the frame
of every change but `resize`, which keeps what lies inside the new size.

## Theorems

* `cells_clear`, `cells_store`, `cells_resize`: The stored text at an address
  after a change.
* `size_empty`: The size of an empty sheet.
* `text_empty`, `text_clear`, `text_store`, `text_resize`: The text seen there.
* `rows_store`, `cols_store`: The size after storing a text, as numbers.
* `write_of_inLimits`, `write_of_not_inLimits`: A cell can be written exactly
  within the limits.
* `write_eq_error_iff`: What is reported of a cell beyond them.
* `cells_eq_of_text_eq`: Sheets without empty stored texts store the same when
  they show the same.
-/

namespace Worksheet

namespace Sheet

/-- Clearing a cell takes away what it stores and nothing else. -/
theorem cells_clear (s : Sheet) (a b : Address) :
    (s.clear a).cells[b]? = if a = b then none else s.cells[b]? := by
  simp only [clear, Std.ExtTreeMap.getElem?_erase, Std.LawfulEqCmp.compare_eq_iff_eq]

/-- Storing the empty text is clearing. -/
theorem store_empty (s : Sheet) (a : Address) : s.store a "" = s.clear a := by
  rw [store, if_pos (String.isEmpty_iff.mpr rfl)]

/-- A text that is not empty is stored in its cell, and the sheet grows to hold
    it. -/
theorem store_nonempty (s : Sheet) (a : Address) {t : String} (ht : t ≠ "") :
    s.store a t = { s with
      rows := max s.rows (a.row + 1)
      cols := max s.cols (a.col + 1)
      cells := s.cells.insert a t } := by
  rw [store, if_neg (fun hc => ht (String.isEmpty_iff.mp hc))]

/-- Storing a text changes its own cell only, and the empty text is not kept. -/
theorem cells_store (s : Sheet) (a b : Address) (t : String) :
    (s.store a t).cells[b]? =
      if a = b then (if t = "" then none else some t) else s.cells[b]? := by
  by_cases ht : t = ""
  · rw [ht, store_empty, cells_clear, if_pos rfl]
  · rw [store_nonempty s a ht, if_neg ht]
    simp only [Std.ExtTreeMap.getElem?_insert, Std.LawfulEqCmp.compare_eq_iff_eq]

/-- A sheet that is made smaller keeps the cells that are still inside. -/
theorem cells_resize (s : Sheet) (rows cols : UInt32) (b : Address) :
    (s.resize rows cols).cells[b]? =
      if b.row < min rows maxRows ∧ b.col < min cols maxCols then s.cells[b]? else none := by
  -- A stored cell survives exactly when its address passes the filter.
  simp only [resize, Std.ExtTreeMap.getElem?_filter']
  rcases s.cells[b]? with _ | t
  · rw [Option.filter_none, ite_self]
  · simp only [Option.filter_some, Bool.and_eq_true, decide_eq_true_eq]

/-- A size within the limits is taken as it is. -/
theorem size_empty {rows cols : UInt32} (name : String) (hrows : rows ≤ maxRows)
    (hcols : cols ≤ maxCols) :
    (empty name rows cols).rows = rows ∧ (empty name rows cols).cols = cols := by
  rw [UInt32.le_iff_toNat_le] at hrows hcols
  refine ⟨UInt32.toNat_inj.mp ?_, UInt32.toNat_inj.mp ?_⟩
  · rw [empty, UInt32.toNat_min, Nat.min_eq_left hrows]
  · rw [empty, UInt32.toNat_min, Nat.min_eq_left hcols]

/-- Nothing can be seen in an empty sheet. -/
theorem text_empty (name : String) (rows cols : UInt32) (b : Address) :
    (empty name rows cols).text b = "" := by
  simp only [text, empty, Std.ExtTreeMap.getElem?_empty, Option.getD_none]

/-- A cell that was cleared shows nothing, the others what they showed. -/
theorem text_clear (s : Sheet) (a b : Address) :
    (s.clear a).text b = if a = b then "" else s.text b := by
  rw [text, cells_clear]
  by_cases h : a = b
  · rw [if_pos h, if_pos h, Option.getD_none]
  · rw [if_neg h, if_neg h, text]

/-- A cell shows the text that was stored last. -/
theorem text_store (s : Sheet) (a b : Address) (t : String) :
    (s.store a t).text b = if a = b then t else s.text b := by
  rw [text, cells_store]
  by_cases h : a = b
  · rw [if_pos h, if_pos h]
    by_cases ht : t = ""
    · rw [if_pos ht, ht, Option.getD_none]
    · rw [if_neg ht, Option.getD_some]
  · rw [if_neg h, if_neg h, text]

/-- Only what is still inside can be seen in a sheet of a new size. -/
theorem text_resize (s : Sheet) (rows cols : UInt32) (b : Address) :
    (s.resize rows cols).text b =
      if b.row < min rows maxRows ∧ b.col < min cols maxCols then s.text b else "" := by
  rw [text, cells_resize]
  by_cases h : b.row < min rows maxRows ∧ b.col < min cols maxCols
  · rw [if_pos h, if_pos h, text]
  · rw [if_neg h, if_neg h, Option.getD_none]

/-- Rows are added as far as the cell of a text that is not empty. -/
theorem rows_store (s : Sheet) {a : Address} (ha : a.InLimits) (t : String) :
    (s.store a t).rows.toNat =
      if t = "" then s.rows.toNat else max s.rows.toNat (a.row.toNat + 1) := by
  by_cases ht : t = ""
  · rw [if_pos ht, ht, store_empty, clear]
  · -- Within the limits the word behind the index does not wrap.
    rw [if_neg ht, store_nonempty s a ht, UInt32.toNat_max, Word.toNat_succ_of_lt ha.1]

/-- Columns are added as far as the cell of a text that is not empty. -/
theorem cols_store (s : Sheet) {a : Address} (ha : a.InLimits) (t : String) :
    (s.store a t).cols.toNat =
      if t = "" then s.cols.toNat else max s.cols.toNat (a.col.toNat + 1) := by
  by_cases ht : t = ""
  · rw [if_pos ht, ht, store_empty, clear]
  · rw [if_neg ht, store_nonempty s a ht, UInt32.toNat_max, Word.toNat_succ_of_lt ha.2]

/-- Within the limits a text is written by storing it. -/
theorem write_of_inLimits (s : Sheet) {a : Address} (ha : a.InLimits) (t : String) :
    s.write a t = .ok (s.store a t) := by
  rw [write, if_neg (UInt32.not_le.mpr ha.1), if_neg (UInt32.not_le.mpr ha.2)]

/-- Nothing is written beyond the limits, whatever the text. -/
theorem write_of_not_inLimits (s : Sheet) {a : Address} (ha : ¬ a.InLimits) (t : String) :
    ∃ e, s.write a t = .error e := by
  by_cases hr : maxRows ≤ a.row
  · exact ⟨_, by rw [write, if_pos hr]⟩
  · have hc : maxCols ≤ a.col :=
      UInt32.not_lt.mp (fun h => ha ⟨UInt32.not_le.mp hr, h⟩)
    exact ⟨_, by rw [write, if_neg hr, if_pos hc]⟩

/-- Writing succeeds exactly within the limits. -/
theorem write_eq_ok_iff (s s' : Sheet) (a : Address) (t : String) :
    s.write a t = .ok s' ↔ a.InLimits ∧ s.store a t = s' := by
  by_cases ha : a.InLimits
  · rw [write_of_inLimits s ha, Except.ok.injEq]
    exact ⟨fun h => ⟨ha, h⟩, fun h => h.2⟩
  · rcases write_of_not_inLimits s ha t with ⟨e, he⟩
    rw [he]
    exact ⟨fun h => absurd h (by simp only [reduceCtorEq, not_false_eq_true]),
      fun h => absurd h.1 ha⟩

/-- Beyond them it reports the row, or else the column. -/
theorem write_eq_error_iff (s : Sheet) (a : Address) (t : String) (e : OutOfBounds) :
    s.write a t = .error e ↔ ¬ a.InLimits ∧
      e = if maxRows ≤ a.row then .row a.row.toUInt64 else .column a.col.toUInt64 := by
  rw [write, Address.InLimits, ← UInt32.not_le, ← UInt32.not_le]
  by_cases hrow : maxRows ≤ a.row
  · rw [if_pos hrow, if_pos hrow, Except.error.injEq]
    exact ⟨fun h => ⟨fun hin => hin.1 hrow, h.symm⟩, fun h => h.2.symm⟩
  · rw [if_neg hrow, if_neg hrow]
    by_cases hcol : maxCols ≤ a.col
    · rw [if_pos hcol, Except.error.injEq]
      exact ⟨fun h => ⟨fun hin => hin.2 hcol, h.symm⟩, fun h => h.2.symm⟩
    · rw [if_neg hcol]
      exact ⟨fun h => absurd h (by simp only [reduceCtorEq, not_false_eq_true]),
        fun h => absurd ⟨hrow, hcol⟩ h.1⟩

/-- A cell with a text is one of the stored ones. -/
theorem mem_cells_of_eq_some {s : Sheet} {a : Address} {t : String} (h : s.cells[a]? = some t) :
    a ∈ s.cells := by
  rw [Std.ExtTreeMap.mem_iff_isSome_getElem?, h, Option.isSome_some]

/-- What is stored, read off what is seen. -/
theorem cells_eq_of_text (s : Sheet) (hs : ∀ b : Address, s.cells[b]? ≠ some "") (a : Address) :
    s.cells[a]? = if s.text a = "" then none else some (s.text a) := by
  rcases h : s.cells[a]? with _ | t
  · rw [text, h, Option.getD_none, if_pos rfl]
  · have ht : t ≠ "" := fun hc => hs a (hc ▸ h)
    rw [text, h, Option.getD_some, if_neg ht]

/-- Sheets without stored empty texts store the same when they show the same. -/
theorem cells_eq_of_text_eq {s t : Sheet} (hs : ∀ a : Address, s.cells[a]? ≠ some "")
    (ht : ∀ a : Address, t.cells[a]? ≠ some "") (h : ∀ a, s.text a = t.text a) : s.cells = t.cells := by
  -- The maps are extensional, and both are read off the texts that are seen.
  refine Std.ExtTreeMap.ext_getElem? (fun a => ?_)
  rw [cells_eq_of_text s hs, cells_eq_of_text t ht, h a]

end Sheet

end Worksheet
