import Mathlib.Data.Set.Card
import Mathlib.Order.Interval.Finset.Nat
import Worksheet.Proofs.Range.Walk

/-!
# Counting a Range

When the counts of a range are the numbers of what it covers.

What a range covers is a set of cells, and the rows and columns it covers are
the sets of theirs. How many there are is a matter of these sets alone. The
counts are words: one less than the number of lines always fits, but one is
added while the word is still short. There is exactly one number of lines that
does not survive this, that of a whole axis, and it comes out as nothing.

The number of cells is multiplied in a longer word and loses nothing more. So
the counts are right for every range that leaves out some row and some column,
and a range that covers an axis from end to end has, by its count, no cells at
all; a walk through it ends before its first step.

## Main definitions

* `Word.between`: The words from one to another.
* `Range.area`, `Range.rows`, `Range.cols`: The cells, rows and columns that
  are covered.

## Theorems

* `Word.ncard_between`: How many words there are from one to another.
* `Range.ncard_area`: How many cells are covered.
* `Range.counts_eq_ncard_iff`: The counts are right unless an axis is covered.
* `Range.counts_whole_column`: A whole column is counted as nothing.
-/

namespace Worksheet

namespace Word

/-- The words from one to another. -/
def between (lo hi : UInt32) : Set UInt32 :=
  {i | lo ≤ i ∧ i ≤ hi}

/-- An interval of indices has as many members as its ends are apart, and
    one. -/
theorem ncard_between {lo hi : UInt32} (h : lo ≤ hi) :
    (between lo hi).ncard = hi.toNat - lo.toNat + 1 := by
  have hle := UInt32.le_iff_toNat_le.mp h
  have himage : UInt32.toNat '' between lo hi = Finset.Icc lo.toNat hi.toNat := by
    ext n
    simp only [between, Set.mem_image, Set.mem_ofPred_eq, Finset.coe_Icc, Set.mem_Icc,
      UInt32.le_iff_toNat_le]
    constructor
    · rintro ⟨i, hi, rfl⟩
      exact hi
    · intro hn
      have hsize := UInt32.toNat_lt_size hi
      have hword : (UInt32.ofNat n).toNat = n :=
        UInt32.toNat_ofNat_of_lt' (Nat.lt_of_le_of_lt hn.2 hsize)
      exact ⟨UInt32.ofNat n, by rwa [hword], hword⟩
  have hinj : Function.Injective UInt32.toNat := fun i j => UInt32.toNat_inj.mp
  rw [← Set.ncard_image_of_injective _ hinj, himage, Set.ncard_coe_finset, Nat.card_Icc]
  omega

/-- Both ends of the axis have to be there, and then everything in the middle
    is. -/
theorem between_eq_univ_iff {lo hi : UInt32} (h : lo ≤ hi) :
    between lo hi = Set.univ ↔ hi.toNat - lo.toNat + 1 = UInt32.size := by
  have hsize : UInt32.size = 4294967296 := rfl
  have hhi := UInt32.toNat_lt hi
  have hle := UInt32.le_iff_toNat_le.mp h
  constructor
  · intro huniv
    have hall : ∀ i : UInt32, lo ≤ i ∧ i ≤ hi := Set.eq_univ_iff_forall.mp huniv
    have hfirst := UInt32.le_iff_toNat_le.mp (hall 0).1
    have hlast := UInt32.le_iff_toNat_le.mp (hall 0xFFFFFFFF).2
    have hzero : (0 : UInt32).toNat = 0 := rfl
    have hmax : (0xFFFFFFFF : UInt32).toNat = 4294967295 := rfl
    omega
  · intro hspan
    refine Set.eq_univ_iff_forall.mpr fun i => ?_
    have hi := UInt32.toNat_lt i
    rw [between, Set.mem_ofPred_eq, UInt32.le_iff_toNat_le, UInt32.le_iff_toNat_le]
    omega

/-- The count of the words from one to another is right unless they are all
    there are. -/
theorem toNat_count_eq_iff {lo hi : UInt32} (h : lo ≤ hi) :
    (hi - lo + 1).toNat = (between lo hi).ncard ↔ between lo hi ≠ Set.univ := by
  have hhi := UInt32.toNat_lt_size hi
  have hle := UInt32.le_iff_toNat_le.mp h
  rw [ne_eq, between_eq_univ_iff h, toNat_sub_succ h, ncard_between h]
  constructor
  · intro hcount hspan
    rw [hspan, Nat.mod_self] at hcount
    exact absurd hcount.symm (by decide)
  · intro hspan
    exact Nat.mod_eq_of_lt (by omega)

/-- The count of all words there are is nothing. -/
theorem count_eq_zero {lo hi : UInt32} (h : lo ≤ hi) (huniv : between lo hi = Set.univ) :
    hi - lo + 1 = 0 := by
  rw [← UInt32.toNat_inj, toNat_sub_succ h, (between_eq_univ_iff h).mp huniv]
  exact Nat.mod_self _

end Word

namespace Range

/-- The cells that the range covers. -/
def area (r : Range) : Set Address :=
  {a | r.contains a = true}

/-- The rows in which the range covers a cell. -/
def rows (r : Range) : Set UInt32 :=
  Address.row '' r.area

/-- The columns in which the range covers a cell. -/
def cols (r : Range) : Set UInt32 :=
  Address.col '' r.area

theorem Normal.rows_eq {r : Range} (h : r.Normal) :
    r.rows = Word.between r.first.row r.last.row := by
  ext i
  constructor
  · rintro ⟨a, ha, rfl⟩
    exact ((contains_iff r a).mp ha).1
  · intro hi
    exact ⟨⟨i, r.first.col⟩, (contains_iff r _).mpr ⟨hi, UInt32.le_refl _, h.2⟩, rfl⟩

theorem Normal.cols_eq {r : Range} (h : r.Normal) :
    r.cols = Word.between r.first.col r.last.col := by
  ext i
  constructor
  · rintro ⟨a, ha, rfl⟩
    exact ((contains_iff r a).mp ha).2
  · intro hi
    exact ⟨⟨r.first.row, i⟩, (contains_iff r _).mpr ⟨⟨UInt32.le_refl _, h.1⟩, hi⟩, rfl⟩

theorem Normal.ncard_rows {r : Range} (h : r.Normal) : r.rows.ncard = r.rowSpan := by
  rw [h.rows_eq, Word.ncard_between h.1, rowSpan]

theorem Normal.ncard_cols {r : Range} (h : r.Normal) : r.cols.ncard = r.colSpan := by
  rw [h.cols_eq, Word.ncard_between h.2, colSpan]

/-- A range covers as many cells as it has rows, in every column. -/
theorem Normal.ncard_area {r : Range} (h : r.Normal) :
    r.area.ncard = r.rows.ncard * r.cols.ncard := by
  have hpairs : r.area = (fun p : UInt32 × UInt32 => Address.mk p.1 p.2) '' (r.rows ×ˢ r.cols) := by
    rw [h.rows_eq, h.cols_eq]
    ext a
    constructor
    · intro ha
      exact ⟨(a.row, a.col), (contains_iff r a).mp ha, rfl⟩
    · rintro ⟨p, hp, rfl⟩
      exact (contains_iff r _).mpr hp
  have hinj : Function.Injective fun p : UInt32 × UInt32 => Address.mk p.1 p.2 := by
    intro p q hpq
    rw [Address.mk.injEq] at hpq
    exact Prod.ext hpq.1 hpq.2
  rw [hpairs, Set.ncard_image_of_injective _ hinj, Set.ncard_prod]

/-- The row count wraps around exactly when the range has every row. -/
theorem Normal.rowCount_eq_iff {r : Range} (h : r.Normal) :
    r.rowCount.toNat = r.rows.ncard ↔ r.rows ≠ Set.univ := by
  rw [h.rows_eq]
  exact Word.toNat_count_eq_iff h.1

/-- The column count wraps around exactly when the range has every column. -/
theorem Normal.colCount_eq_iff {r : Range} (h : r.Normal) :
    r.colCount.toNat = r.cols.ncard ↔ r.cols ≠ Set.univ := by
  rw [h.cols_eq]
  exact Word.toNat_count_eq_iff h.2

/-- A whole axis makes the cell count zero. -/
theorem Normal.cellCount_eq_zero {r : Range} (h : r.Normal)
    (haxis : r.rows = Set.univ ∨ r.cols = Set.univ) : r.cellCount = 0 := by
  rw [h.rows_eq, h.cols_eq] at haxis
  rw [← UInt64.toNat_inj, toNat_cellCount]
  rcases haxis with hrows | hcols
  · have hcount : r.rowCount = 0 := Word.count_eq_zero h.1 hrows
    rw [hcount]
    exact Nat.zero_mul _
  · have hcount : r.colCount = 0 := Word.count_eq_zero h.2 hcols
    rw [hcount]
    exact Nat.mul_zero _

theorem Normal.cellCount_eq_iff {r : Range} (h : r.Normal) :
    r.cellCount.toNat = r.area.ncard ↔ r.rows ≠ Set.univ ∧ r.cols ≠ Set.univ := by
  constructor
  · intro hcount
    -- There is a cell, so a count of nothing is wrong.
    rw [← not_or]
    intro haxis
    rw [h.cellCount_eq_zero haxis, h.ncard_area, h.ncard_rows, h.ncard_cols] at hcount
    exact absurd hcount.symm (Nat.mul_ne_zero (Nat.succ_ne_zero _) (Nat.succ_ne_zero _))
  · rintro ⟨hrows, hcols⟩
    rw [toNat_cellCount, h.ncard_area, h.rowCount_eq_iff.mpr hrows, h.colCount_eq_iff.mpr hcols]

/-- Between two corners the counts of rows and columns are those of the rows
    and columns covered, unless these are all there are. The count of cells,
    which is also what a walk starts with, is right when both are, and
    otherwise it is zero. -/
theorem counts_eq_ncard_iff (a b : Address) :
    let r := ofCorners a b
    (r.rowCount.toNat = r.rows.ncard ↔ r.rows ≠ Set.univ) ∧
      (r.colCount.toNat = r.cols.ncard ↔ r.cols ≠ Set.univ) ∧
      (r.cellCount.toNat = r.area.ncard ↔ r.rows ≠ Set.univ ∧ r.cols ≠ Set.univ) ∧
      r.walk.remaining = r.cellCount ∧
      (r.rows = Set.univ ∨ r.cols = Set.univ → r.cellCount = 0) := by
  intro r
  have h : r.Normal := normal_ofCorners a b
  exact ⟨h.rowCount_eq_iff, h.colCount_eq_iff, h.cellCount_eq_iff, rfl, h.cellCount_eq_zero⟩

/-- Two columns without their last row, and with it. -/
theorem counts_eq_ncard_iff_rows :
    (ofCorners ⟨0, 1⟩ ⟨0xFFFFFFFE, 0⟩).cellCount.toNat =
        (ofCorners ⟨0, 1⟩ ⟨0xFFFFFFFE, 0⟩).area.ncard ∧
      (ofCorners ⟨0, 1⟩ ⟨0xFFFFFFFF, 0⟩).rows = Set.univ ∧
      (ofCorners ⟨0, 1⟩ ⟨0xFFFFFFFF, 0⟩).cellCount = 0 := by
  have hsize : UInt32.size = 4294967296 := rfl
  have hshort := normal_ofCorners ⟨0, 1⟩ ⟨0xFFFFFFFE, 0⟩
  have hwhole := normal_ofCorners ⟨0, 1⟩ ⟨0xFFFFFFFF, 0⟩
  have hrows : (ofCorners ⟨0, 1⟩ ⟨0xFFFFFFFE, 0⟩).rows ≠ Set.univ := by
    rw [hshort.rows_eq, ne_eq, Word.between_eq_univ_iff hshort.1]
    decide
  have hcols : (ofCorners ⟨0, 1⟩ ⟨0xFFFFFFFE, 0⟩).cols ≠ Set.univ := by
    rw [hshort.cols_eq, ne_eq, Word.between_eq_univ_iff hshort.2]
    decide
  have huniv : (ofCorners ⟨0, 1⟩ ⟨0xFFFFFFFF, 0⟩).rows = Set.univ := by
    rw [hwhole.rows_eq, Word.between_eq_univ_iff hwhole.1]
    decide
  exact ⟨(counts_eq_ncard_iff _ _).2.2.1.mpr ⟨hrows, hcols⟩, huniv,
    (counts_eq_ncard_iff _ _).2.2.2.2 (.inl huniv)⟩

/-- The first column from end to end has rows and cells, and by its counts it
    has none. -/
theorem counts_whole_column :
    let r := ofCorners ⟨0, 0⟩ ⟨0xFFFFFFFF, 0⟩
    r.rows.ncard = 4294967296 ∧ r.rowCount = 0 ∧
      r.area.ncard = 4294967296 ∧ r.cellCount = 0 ∧ r.walk.remaining = 0 := by
  intro r
  have h : r.Normal := normal_ofCorners _ _
  have hrows : r.rows.ncard = 4294967296 := h.ncard_rows
  have hcols : r.cols.ncard = 1 := h.ncard_cols
  have hcells : r.area.ncard = 4294967296 := by
    rw [h.ncard_area, hrows, hcols]
  exact ⟨hrows, by decide, hcells, by decide, by decide⟩

end Range

end Worksheet
