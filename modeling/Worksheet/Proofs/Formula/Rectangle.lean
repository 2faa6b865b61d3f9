import Worksheet.Proofs.Formula.Notation

/-!
# References and Their Cells

That a range in a formula and a reference on its own name the same cells, and
that no number is lost on the way to them.

A reference alone is turned into a cell by one conversion and a range into
two corners by another, which raises the smaller numbers and lowers the larger
ones where the first would give up. Both count back by one and make the result
a shorter word. What is turned is never zero and never beyond the limits by
then, so neither step loses anything.

A range is settled by its cells, and these do not change when the rows or the
columns of its corners are exchanged. A range with one reference as both of its
corners has the cell of that reference, if there is one.

## Theorems

* `Corners.range?_eq_none_iff`: There is no range exactly when no cell is covered.
* `Corners.range?_eq_of_covers_iff`: Corners that cover the same have the same
  range.
* `Corners.range?_same`: A range from a reference to itself.
* `Corners.range?_covers_exactly`: Both conversions, and that nothing is lost.
-/

namespace Worksheet

namespace Corners

/-- There is no range exactly when no cell within the limits is covered. -/
theorem range?_eq_none_iff (c : Corners) :
    c.range? = none ↔ ∀ a : Address, ¬ (a.InLimits ∧ c.Covers a) := by
  constructor
  · intro hnone a ha
    rcases (exists_range?_iff c a).mpr ha with ⟨r, hr, -⟩
    rw [hnone] at hr
    exact absurd hr (by simp only [reduceCtorEq, not_false_eq_true])
  · intro hcells
    cases hr : c.range? with
    | none => rfl
    | some r =>
        -- The first corner of a range is one of its cells.
        have hfirst := (normal_of_range? hr).contains_first
        exact absurd ((exists_range?_iff c _).mp ⟨r, hr, hfirst⟩) (hcells _)

/-- Corners that cover the same cells have the same range. -/
theorem range?_eq_of_covers_iff {c c' : Corners} (h : ∀ a, c.Covers a ↔ c'.Covers a) :
    c.range? = c'.range? := by
  have hcells : ∀ a, (∃ r, c.range? = some r ∧ r.contains a = true) ↔
      ∃ r, c'.range? = some r ∧ r.contains a = true := by
    intro a
    rw [exists_range?_iff, exists_range?_iff, h]
  cases hr : c.range? with
  | none =>
      have hnone := (range?_eq_none_iff c).mp hr
      rw [eq_comm, range?_eq_none_iff]
      intro a ha
      rw [← h] at ha
      exact hnone a ha
  | some r =>
      -- A range in order is not empty, and it is settled by its cells.
      have hnormal := normal_of_range? hr
      rcases (hcells _).mp ⟨r, hr, hnormal.contains_first⟩ with ⟨r', hr', -⟩
      have hsame : ∀ a, r.contains a = true ↔ r'.contains a = true := by
        intro a
        have ha := hcells a
        simp only [hr, hr', Option.some.injEq, exists_eq_left'] at ha
        exact ha
      rw [hr', hnormal.eq_of_contains_iff (normal_of_range? hr') hsame]

/-- A single reference covers the cell it names. -/
theorem covers_same_iff (x : Reference) (a : Address) : Covers ⟨x, x⟩ a ↔ x.Names a := by
  simp only [Covers, Reference.Names, Between]
  omega

/-- A range from a reference to itself is the cell of the reference, if it has
    one. -/
theorem range?_same (x : Reference) : range? ⟨x, x⟩ = x.address?.map Range.single := by
  cases ha : x.address? with
  | none =>
      rw [Option.map_none, range?_eq_none_iff]
      rintro a ⟨hlimits, hcovers⟩
      rw [covers_same_iff] at hcovers
      rw [Reference.address?_eq_some_iff.mpr ⟨hlimits, hcovers⟩] at ha
      exact absurd ha (by simp only [reduceCtorEq, not_false_eq_true])
  | some a =>
      rcases Reference.address?_eq_some_iff.mp ha with ⟨hlimits, hnames⟩
      rw [range?_eq_ofCorners hlimits hlimits hnames hnames, Range.ofCorners_self, Option.map_some]

/-- The bounds of the range are the indices of the ordered references, none of
    which underflows or is cut off. -/
theorem index?_of_range? {c : Corners} {r : Range} (h : c.range? = some r) :
    Word.index? (max (min c.first.row c.second.row) 1) = some r.first.row ∧
      Word.index? (min (max c.first.row c.second.row) maxRows.toUInt64) = some r.last.row ∧
      Word.index? (max (min c.first.column c.second.column) 1) = some r.first.col ∧
      Word.index? (min (max c.first.column c.second.column) maxCols.toUInt64) =
        some r.last.col := by
  have hone : (1 : UInt64).toNat = 1 := rfl
  rcases corners_of_range? h with ⟨hfirstrow, hlastrow, hfirstcol, hlastcol⟩
  refine ⟨?_, ?_, ?_, ?_⟩ <;> apply Word.index?_eq_some_of_toNat
  · rw [hfirstrow, UInt64.toNat_max, UInt64.toNat_min, hone]
  · rw [hlastrow, UInt64.toNat_min, UInt64.toNat_max, UInt32.toNat_toUInt64]
  · rw [hfirstcol, UInt64.toNat_max, UInt64.toNat_min, hone]
  · rw [hlastcol, UInt64.toNat_min, UInt64.toNat_max, UInt32.toNat_toUInt64]

/-- The range between two corners has the covered cells within the limits, and
    there is none if there are no such cells. Exchanging the rows or the
    columns of the corners changes nothing, and from a reference to itself the
    range is the cell the reference names. Every word that is counted back and
    made shorter for a range or for a reference keeps its value. -/
theorem range?_covers_exactly (c : Corners) (x : Reference) :
    (∀ a, (∃ r, c.range? = some r ∧ r.contains a = true) ↔ a.InLimits ∧ c.Covers a) ∧
      (c.range? = none ↔ ∀ a : Address, ¬ (a.InLimits ∧ c.Covers a)) ∧
      range? ⟨⟨c.first.column, c.second.row⟩, ⟨c.second.column, c.first.row⟩⟩ = c.range? ∧
      range? ⟨⟨c.second.column, c.first.row⟩, ⟨c.first.column, c.second.row⟩⟩ = c.range? ∧
      range? ⟨x, x⟩ = x.address?.map Range.single ∧
      (∀ r, c.range? = some r →
        Word.index? (max (min c.first.row c.second.row) 1) = some r.first.row ∧
          Word.index? (min (max c.first.row c.second.row) maxRows.toUInt64) = some r.last.row ∧
          Word.index? (max (min c.first.column c.second.column) 1) = some r.first.col ∧
          Word.index? (min (max c.first.column c.second.column) maxCols.toUInt64) =
            some r.last.col) ∧
      ∀ a, x.address? = some a →
        Word.index? x.row = some a.row ∧ Word.index? x.column = some a.col := by
  refine ⟨exists_range?_iff c, range?_eq_none_iff c, ?_, ?_, range?_same x,
    fun r => index?_of_range?, fun a ha => ?_⟩
  · exact range?_eq_of_covers_iff fun a => and_congr_left' between_comm
  · exact range?_eq_of_covers_iff fun a => and_congr_right' between_comm
  · rcases Reference.address?_eq_some_iff.mp ha with ⟨-, hrow, hcol⟩
    exact ⟨Word.index?_eq_some_of_toNat hrow, Word.index?_eq_some_of_toNat hcol⟩

/-- From row zero to the largest number on both axes is the whole sheet, and
    row zero alone is nothing. -/
theorem range?_covers_exactly_whole :
    let c : Corners := ⟨⟨0, Numeral.largest⟩, ⟨Numeral.largest, 0⟩⟩
    c.range? = some ⟨⟨0, 0⟩, ⟨1048575, 16383⟩⟩ ∧
      Word.index? (max (min Numeral.largest 0) 1) = some 0 ∧
      Word.index? (min (max Numeral.largest 0) maxRows.toUInt64) = some 1048575 ∧
      range? ⟨⟨1, 0⟩, ⟨1, 0⟩⟩ = none ∧
      Reference.address? ⟨16384, 1048576⟩ = some ⟨1048575, 16383⟩ ∧
      Word.index? 1048576 = some 1048575 ∧ Word.index? 16384 = some 16383 := by
  intro c
  have hrange : c.range? = some ⟨⟨0, 0⟩, ⟨1048575, 16383⟩⟩ := by decide
  have hcell : Reference.address? ⟨16384, 1048576⟩ = some ⟨1048575, 16383⟩ := by decide
  rcases range?_covers_exactly c ⟨16384, 1048576⟩ with ⟨-, -, -, -, -, hwords, hword⟩
  rcases range?_covers_exactly c ⟨1, 0⟩ with ⟨-, -, -, -, hsame, -, -⟩
  exact ⟨hrange, (hwords _ hrange).1, (hwords _ hrange).2.1, hsame, hcell, hword _ hcell⟩

end Corners

end Worksheet
