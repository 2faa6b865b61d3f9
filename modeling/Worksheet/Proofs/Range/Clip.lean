import Worksheet.Proofs.Range.Walk

/-!
# Clipping a Range

What is left of a range inside the first rows and columns of a grid.

A clipped range contains what the range contains and the size reaches, and
there is none exactly when these have nothing in common. The last row and
column of the size are found by counting back from it, which goes wrong for a
size of nothing; but a range whose first cell is inside has a row and a column
in front of the size, so the count is never made there.

A walk through a clipped range turns to the next row earlier than a walk
through the whole range does, and it ends earlier. Still both go row by row,
and a list of cells in that order is settled by its members: the first walk
visits what is left of the second one when the cells outside are passed over.

## Theorems

* `Normal.countable`: Words can count a range within the limits.
* `Normal.clip_eq`: The corners of a clipped range.
* `Normal.exists_clip_iff`: The cells of a clipped range.
* `Countable.clip`: Clipping leaves a range countable.
* `Countable.cells_clip`: Clipping keeps the order of the cells.
* `Countable.bind_clip`: To clip twice is to clip once.
* `clip_filters_cells`: Clipping between two corners picks out cells.
-/

namespace Worksheet

namespace Range

theorem Normal.countable {r : Range} (h : r.Normal) (hlast : r.last.InLimits) : r.Countable := by
  have hrow := UInt32.lt_iff_toNat_lt.mp hlast.1
  have hcol := UInt32.lt_iff_toNat_lt.mp hlast.2
  have hrows : maxRows.toNat < UInt32.size := by decide
  have hcols : maxCols.toNat < UInt32.size := by decide
  refine ⟨h, ?_, ?_⟩
  · rw [rowSpan]
    omega
  · rw [colSpan]
    omega

/-- Clipping leaves the first corner where it is and moves the last one in front
    of the size. The corners stay in order, so none of them is exchanged. -/
theorem Normal.clip_eq {r : Range} (h : r.Normal) {rows cols : UInt32}
    (hfirst : r.first.row < rows ∧ r.first.col < cols) :
    r.clip rows cols =
      some ⟨r.first, ⟨min r.last.row (rows - 1), min r.last.col (cols - 1)⟩⟩ := by
  have hrows := Word.toNat_pred (UInt32.lt_of_le_of_lt UInt32.zero_le hfirst.1)
  have hcols := Word.toNat_pred (UInt32.lt_of_le_of_lt UInt32.zero_le hfirst.2)
  have hclipped : Normal ⟨r.first, ⟨min r.last.row (rows - 1), min r.last.col (cols - 1)⟩⟩ := by
    rw [normal_iff_toNat] at h ⊢
    rw [UInt32.lt_iff_toNat_lt, UInt32.lt_iff_toNat_lt] at hfirst
    simp only [UInt32.toNat_min, hrows, hcols]
    omega
  rw [clip, if_pos hfirst, hclipped.ofCorners_eq]

/-- Where there is a clipped range the size is not nothing, and counting back
    from it does not wrap. -/
theorem Normal.corners_of_clip {r r' : Range} (hr : r.Normal) {rows cols : UInt32}
    (h : r.clip rows cols = some r') :
    (r.first.row.toNat < rows.toNat ∧ r.first.col.toNat < cols.toNat) ∧ r'.first = r.first ∧
      r'.last.row.toNat = min r.last.row.toNat (rows.toNat - 1) ∧
      r'.last.col.toNat = min r.last.col.toNat (cols.toNat - 1) := by
  by_cases hfirst : r.first.row < rows ∧ r.first.col < cols
  · rw [hr.clip_eq hfirst, Option.some.injEq] at h
    have hrows := Word.toNat_pred (UInt32.lt_of_le_of_lt UInt32.zero_le hfirst.1)
    have hcols := Word.toNat_pred (UInt32.lt_of_le_of_lt UInt32.zero_le hfirst.2)
    rw [← h]
    simp only [UInt32.toNat_min, hrows, hcols, and_self, and_true]
    rwa [UInt32.lt_iff_toNat_lt, UInt32.lt_iff_toNat_lt] at hfirst
  · rw [clip, if_neg hfirst] at h
    exact absurd h (by simp only [reduceCtorEq, not_false_eq_true])

/-- A clipped range can still be counted, since it is no wider. -/
theorem Countable.clip {r r' : Range} {rows cols : UInt32} (h : r.Countable)
    (hclip : r.clip rows cols = some r') : r'.Countable := by
  rcases h.normal.corners_of_clip hclip with ⟨⟨hrow, hcol⟩, hfirst, hlastrow, hlastcol⟩
  have hnormal := (normal_iff_toNat r).mp h.normal
  have hrows := h.rows
  have hcols := h.cols
  rw [rowSpan] at hrows
  rw [colSpan] at hcols
  refine ⟨?_, ?_, ?_⟩
  · rw [normal_iff_toNat, hfirst]
    omega
  · rw [rowSpan, hfirst]
    omega
  · rw [colSpan, hfirst]
    omega

/-- The cells of a clipped range are those of the range inside the size. -/
theorem Normal.exists_clip_iff {r : Range} (h : r.Normal) (rows cols : UInt32) (a : Address) :
    (∃ r', r.clip rows cols = some r' ∧ r'.contains a = true) ↔
      r.contains a = true ∧ a.row < rows ∧ a.col < cols := by
  constructor
  · rintro ⟨r', hclip, ha⟩
    rcases h.corners_of_clip hclip with ⟨⟨hrow, hcol⟩, hfirst, hlastrow, hlastcol⟩
    rw [contains_iff_toNat, hfirst] at ha
    rw [contains_iff_toNat, UInt32.lt_iff_toNat_lt, UInt32.lt_iff_toNat_lt]
    omega
  · rintro ⟨ha, hrow, hcol⟩
    have hin := (contains_iff r a).mp ha
    -- The first corner comes before the cell, so it is inside as well.
    have hclip := h.clip_eq
      ⟨UInt32.lt_of_le_of_lt hin.1.1 hrow, UInt32.lt_of_le_of_lt hin.2.1 hcol⟩
    rcases h.corners_of_clip hclip with ⟨-, hfirst, hlastrow, hlastcol⟩
    refine ⟨_, hclip, ?_⟩
    rw [contains_iff_toNat] at ha
    rw [UInt32.lt_iff_toNat_lt] at hrow hcol
    rw [contains_iff_toNat, hfirst]
    omega

/-- What there is of a range, if there is any: its cells, and that they are in
    order. -/
theorem mem_elim_cells_iff {o : Option Range} (h : ∀ r, o = some r → r.Countable) (a : Address) :
    a ∈ o.elim [] cells ↔ ∃ r, o = some r ∧ r.contains a = true := by
  cases o with
  | some r =>
      simp only [Option.elim_some, Option.some.injEq, exists_eq_left']
      exact (h r rfl).mem_cells_iff a
  | none => simp only [Option.elim_none, List.not_mem_nil, reduceCtorEq, false_and, exists_false]

theorem pairwise_elim_cells {o : Option Range} (h : ∀ r, o = some r → r.Countable) :
    (o.elim [] cells).Pairwise Address.Before := by
  cases o with
  | some r => exact (h r rfl).pairwise_cells
  | none => exact List.Pairwise.nil

/-- The cells of a clipped range are those of the range inside the size, in the
    same order. -/
theorem Countable.cells_clip {r : Range} (h : r.Countable) (rows cols : UInt32) :
    (r.clip rows cols).elim [] cells = r.cells.filter fun a => a.row < rows ∧ a.col < cols := by
  have hclip : ∀ r', r.clip rows cols = some r' → r'.Countable := fun _ => h.clip
  -- Both lists come row by row, so it is enough that they have the same cells.
  refine (pairwise_elim_cells hclip).eq_of_mem_iff (h.pairwise_cells.filter _) fun a => ?_
  rw [mem_elim_cells_iff hclip, h.normal.exists_clip_iff, List.mem_filter, h.mem_cells_iff,
    decide_eq_true_iff]

theorem Countable.cells_ne_nil {r : Range} (h : r.Countable) : r.cells ≠ [] :=
  List.ne_nil_of_mem ((h.mem_cells_iff r.first).mpr h.normal.contains_first)

/-- A range has no clipping exactly when none of its cells is inside. -/
theorem Countable.clip_eq_none_iff {r : Range} (h : r.Countable) (rows cols : UInt32) :
    r.clip rows cols = none ↔ r.cells.filter (fun a => a.row < rows ∧ a.col < cols) = [] := by
  rw [← h.cells_clip]
  cases hclip : r.clip rows cols with
  | some r' =>
      exact iff_of_false (by simp only [reduceCtorEq, not_false_eq_true])
        (h.clip hclip).cells_ne_nil
  | none => exact iff_of_true rfl rfl

/-- Clipping a clipped range is clipping by the smaller size. -/
theorem Countable.bind_clip {r : Range} (h : r.Countable) (rows cols rows' cols' : UInt32) :
    ((r.clip rows cols).bind fun r' => r'.clip rows' cols') =
      r.clip (min rows rows') (min cols cols') := by
  have hsize : r.first.row < min rows rows' ∧ r.first.col < min cols cols' ↔
      (r.first.row < rows ∧ r.first.col < cols) ∧ r.first.row < rows' ∧ r.first.col < cols' := by
    rw [Word.lt_min_iff, Word.lt_min_iff, and_and_and_comm]
  by_cases hin : r.first.row < rows ∧ r.first.col < cols
  · have hclip := h.normal.clip_eq hin
    have hnormal := (h.clip hclip).normal
    rw [hclip, Option.bind_some]
    by_cases hin' : r.first.row < rows' ∧ r.first.col < cols'
    · rw [hnormal.clip_eq hin', h.normal.clip_eq (hsize.mpr ⟨hin, hin'⟩),
        Word.min_pred hin.1 hin'.1, Word.min_pred hin.2 hin'.2]
    · rw [Range.clip, if_neg hin', Range.clip, if_neg fun h => hin' (hsize.mp h).2]
  · rw [Range.clip, if_neg hin, Option.bind_none, Range.clip, if_neg fun h => hin (hsize.mp h).1]

/-- Between two corners clipping picks out the cells in the first rows and
    columns, in the order in which a walk visits them, and a walk through what is
    left visits just these. Nothing is left exactly when there are none, and to
    clip twice is to clip once by the smaller size. -/
theorem clip_filters_cells {a b : Address} (hrows : (ofCorners a b).rowSpan < UInt32.size)
    (hcols : (ofCorners a b).colSpan < UInt32.size) (rows cols : UInt32) :
    let r := ofCorners a b
    let inside := r.cells.filter fun c => c.row < rows ∧ c.col < cols
    (r.clip rows cols).elim [] cells = inside ∧
      (r.clip rows cols = none ↔ inside = []) ∧
      (∀ r', r.clip rows cols = some r' → ∀ n, (r'.walk.take n).1 = inside.take n ∧
        (r'.walk.take n).2.next?.map Prod.fst = inside[n]?) ∧
      ∀ rows' cols', ((r.clip rows cols).bind fun r' => r'.clip rows' cols') =
        r.clip (min rows rows') (min cols cols') := by
  intro r inside
  have h : r.Countable := ⟨normal_ofCorners a b, hrows, hcols⟩
  have hcells : (r.clip rows cols).elim [] cells = inside := h.cells_clip rows cols
  refine ⟨hcells, h.clip_eq_none_iff rows cols, fun r' hclip n => ?_, h.bind_clip rows cols⟩
  rw [hclip, Option.elim_some] at hcells
  rw [← hcells]
  exact ⟨(h.clip hclip).take_walk_fst n, (h.clip hclip).next?_take_walk n⟩

/-- Four rows of three columns with the corners crossed, in a grid that ends
    inside, in one without rows, and in two that overlap. -/
theorem clip_filters_cells_corner :
    let r := ofCorners ⟨4, 1⟩ ⟨1, 3⟩
    r.rowSpan < UInt32.size ∧ r.colSpan < UInt32.size ∧
      r.clip 3 3 = some ⟨⟨1, 1⟩, ⟨2, 2⟩⟩ ∧
      (r.cells.filter fun c => c.row < 3 ∧ c.col < 3) = [⟨1, 1⟩, ⟨1, 2⟩, ⟨2, 1⟩, ⟨2, 2⟩] ∧
      r.clip 0 3 = none ∧ (r.cells.filter fun c => c.row < 0 ∧ c.col < 3) = [] ∧
      ((r.clip 3 9).bind fun r' => r'.clip 9 3) = r.clip 3 3 := by
  intro r
  have hrows : r.rowSpan < UInt32.size := by decide
  have hcols : r.colSpan < UInt32.size := by decide
  have hclip : r.clip 3 3 = some ⟨⟨1, 1⟩, ⟨2, 2⟩⟩ := by decide
  have hnone : r.clip 0 3 = none := by decide
  have hcells := (clip_filters_cells hrows hcols 3 3).1
  rw [hclip] at hcells
  exact ⟨hrows, hcols, hclip, hcells.symm.trans (by decide), hnone,
    (clip_filters_cells hrows hcols 0 3).2.1.mp hnone,
    (clip_filters_cells hrows hcols 3 9).2.2.2 9 3⟩

end Range

end Worksheet
