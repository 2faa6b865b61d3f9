import Mathlib.Data.List.Sort
import Worksheet.Proofs.Number.Word
import Worksheet.Proofs.Range.Hull
import Worksheet.Range.Walk

/-!
# The Cells of a Range

Which cells a walk through a range visits, in which order, and what it knows
about those still to come.

A walk only knows how to step on, so where it is after some steps has to be
found out. Counting the cells of a range row by row gives each of them a
place, a number whose quotient by the number of columns is the row and whose
remainder is the column. A walk that has visited the places before a number is
settled by that number, its count of cells included. A step leads to the walk
for the next number, and that is the whole induction.

Read off the places, the cells are those the range contains, each row before
the next and each cell before the one to its right. A list in that order is
settled by its members, so two walks that visit the same cells are the same.

Words can count the rows and the columns of a range unless it covers a whole
axis, and only then does a walk know how many cells there are. The row behind
the last one of an axis is no row of a cell; a walk gets there, but it visits
nothing any more.

## Main definitions

* `Address.Before`: The order of cells, row by row.
* `Range.rowSpan`, `Range.colSpan`: The numbers of rows and columns.
* `Range.Countable`: The corners are in order and words can count the lines.
* `Range.place`: The cell with a number, counted row by row.
* `Range.walkAt`: The walk that has visited the places before a number.

## Theorems

* `normal_ofCorners`: Two corners named in any order make a range in order.
* `Countable.next?_walkAt`: A step visits the place that comes next.
* `Countable.take_walk`: Some steps visit as many places.
* `Countable.cells_eq_map_place`: A walk visits the places one after the other.
* `Countable.mem_cells_iff`: The cells of a range are those it contains.
* `Countable.pairwise_cells`: They come row by row, and none comes twice.
* `walk_visits_cells`: A walk between two corners, step by step.
-/

namespace Worksheet

/-- The cell comes before another one when cells are taken row by row. -/
def Address.Before (a b : Address) : Prop :=
  a.row < b.row ∨ a.row = b.row ∧ a.col < b.col

instance : Std.Irrefl Address.Before where
  irrefl a h := by
    rcases h with h | ⟨-, h⟩
    · exact UInt32.lt_irrefl _ h
    · exact UInt32.lt_irrefl _ h

instance : Std.Antisymm Address.Before where
  antisymm a b h h' := by
    -- Two cells cannot come before each other.
    exfalso
    rcases h with h | ⟨heq, h⟩ <;> rcases h' with h' | ⟨heq', h'⟩
    · exact UInt32.lt_asymm h h'
    · exact UInt32.lt_irrefl _ (heq' ▸ h)
    · exact UInt32.lt_irrefl _ (heq ▸ h')
    · exact UInt32.lt_asymm h h'

namespace Range

/-- The number of rows. -/
def rowSpan (r : Range) : Nat :=
  r.last.row.toNat - r.first.row.toNat + 1

/-- The number of columns. -/
def colSpan (r : Range) : Nat :=
  r.last.col.toNat - r.first.col.toNat + 1

/-- The corners are in order, and words can count the rows and the columns. -/
structure Countable (r : Range) : Prop where
  /-- The corners are in order. -/
  normal : r.Normal
  /-- A word can count the rows. -/
  rows : r.rowSpan < UInt32.size
  /-- A word can count the columns. -/
  cols : r.colSpan < UInt32.size

/-- The cell with a number, counted row by row from the first cell. -/
def place (r : Range) (t : Nat) : Address :=
  ⟨UInt32.ofNat (r.first.row.toNat + t / r.colSpan),
    UInt32.ofNat (r.first.col.toNat + t % r.colSpan)⟩

/-- The walk that has visited the places before a number. -/
def walkAt (r : Range) (t : Nat) : Walk :=
  ⟨r, UInt64.ofNat (r.first.row.toNat + t / r.colSpan),
    UInt32.ofNat (r.first.col.toNat + t % r.colSpan), UInt64.ofNat (r.rowSpan * r.colSpan - t)⟩

theorem colSpan_pos (r : Range) : 0 < r.colSpan :=
  Nat.succ_pos _

/-- Being in a range, said with naturals. -/
theorem contains_iff_toNat (r : Range) (a : Address) : r.contains a = true ↔
    (r.first.row.toNat ≤ a.row.toNat ∧ a.row.toNat ≤ r.last.row.toNat) ∧
      r.first.col.toNat ≤ a.col.toNat ∧ a.col.toNat ≤ r.last.col.toNat := by
  simp only [contains_iff, UInt32.le_iff_toNat_le]

theorem normal_iff_toNat (r : Range) : r.Normal ↔
    r.first.row.toNat ≤ r.last.row.toNat ∧ r.first.col.toNat ≤ r.last.col.toNat := by
  simp only [Normal, UInt32.le_iff_toNat_le]

theorem normal_ofCorners (a b : Address) : (ofCorners a b).Normal := by
  rw [normal_iff_toNat, ofCorners, UInt32.toNat_min, UInt32.toNat_max, UInt32.toNat_min,
    UInt32.toNat_max]
  omega

/-- A range in order is the one between its own corners. -/
theorem Normal.ofCorners_eq {r : Range} (h : r.Normal) : ofCorners r.first r.last = r := by
  rw [normal_iff_toNat] at h
  rcases r with ⟨⟨row, col⟩, ⟨row', col'⟩⟩
  simp only [ofCorners, mk.injEq, Address.mk.injEq, ← UInt32.toNat_inj, UInt32.toNat_min,
    UInt32.toNat_max, Nat.min_eq_left h.1, Nat.min_eq_left h.2, Nat.max_eq_right h.1,
    Nat.max_eq_right h.2, and_self]

theorem ofCorners_self (a : Address) : ofCorners a a = single a := by
  have hmin : ∀ i : UInt32, min i i = i := fun i => ite_self i
  have hmax : ∀ i : UInt32, max i i = i := fun i => ite_self i
  rw [ofCorners, hmin, hmin, hmax, hmax]
  rfl

theorem col_place {r : Range} (h : r.Normal) (t : Nat) :
    (r.place t).col.toNat = r.first.col.toNat + t % r.colSpan := by
  have hmod := Nat.mod_lt t r.colSpan_pos
  have hle := ((normal_iff_toNat r).mp h).2
  have hlast := UInt32.toNat_lt r.last.col
  rw [place, UInt32.toNat_ofNat']
  have hcols : r.colSpan = r.last.col.toNat - r.first.col.toNat + 1 := rfl
  exact Nat.mod_eq_of_lt (by omega)

theorem row_place {r : Range} (h : r.Normal) {t : Nat} (ht : t < r.rowSpan * r.colSpan) :
    (r.place t).row.toNat = r.first.row.toNat + t / r.colSpan := by
  have hdiv : t / r.colSpan < r.rowSpan := Nat.div_lt_of_lt_mul (by rwa [Nat.mul_comm] at ht)
  have hle := ((normal_iff_toNat r).mp h).1
  have hlast := UInt32.toNat_lt r.last.row
  rw [place, UInt32.toNat_ofNat']
  have hrows : r.rowSpan = r.last.row.toNat - r.first.row.toNat + 1 := rfl
  exact Nat.mod_eq_of_lt (by omega)

/-- After some steps the walk is at the place of that number. -/
theorem here_walkAt (r : Range) (t : Nat) : (r.walkAt t).here = r.place t := by
  rw [Walk.here, walkAt, place, UInt64.toUInt32_ofNat']

/-- From a full remainder counting on starts the next quotient. -/
theorem succ_div_mod_of_last {t k : Nat} (hk : 0 < k) (h : t % k + 1 = k) :
    (t + 1) / k = t / k + 1 ∧ (t + 1) % k = 0 := by
  have hsplit := Nat.div_add_mod t k
  have hnext : t + 1 = k * (t / k + 1) := by
    rw [Nat.mul_add, Nat.mul_one]
    omega
  rw [hnext, Nat.mul_div_cancel_left _ hk, Nat.mul_mod_right]
  exact ⟨rfl, rfl⟩

theorem succ_div_mod_of_lt {t k : Nat} (hk : 0 < k) (h : t % k + 1 < k) :
    (t + 1) / k = t / k ∧ (t + 1) % k = t % k + 1 := by
  have hsplit := Nat.div_add_mod t k
  have hnext : t + 1 = k * (t / k) + (t % k + 1) := by omega
  constructor
  · conv_lhs => rw [hnext, Nat.mul_add_div hk, Nat.div_eq_of_lt h, Nat.add_zero]
  · conv_lhs => rw [hnext, Nat.mul_add_mod, Nat.mod_eq_of_lt h]

/-- The step from a place goes right, or from the last column to the start of
    the next row; the remainder of the number goes up by one, or back to zero
    while the quotient goes up. -/
theorem onward_walkAt {r : Range} (h : r.Normal) {t : Nat} (ht : t < r.rowSpan * r.colSpan) :
    (r.walkAt t).onward = r.walkAt (t + 1) := by
  have hmod := Nat.mod_lt t r.colSpan_pos
  have hle := ((normal_iff_toNat r).mp h).2
  have hlast : (r.walkAt t).col = (r.walkAt t).range.last.col ↔
      t % r.colSpan + 1 = r.colSpan := by
    have hcol : (r.walkAt t).col.toNat = r.first.col.toNat + t % r.colSpan := col_place h t
    have hend : (r.walkAt t).range.last.col = r.last.col := rfl
    rw [hend, ← UInt32.toNat_inj, hcol, colSpan]
    omega
  -- The counter of what remains goes down with the steps, and not below zero.
  have hremaining : UInt64.ofNat (r.rowSpan * r.colSpan - t) - 1 =
      UInt64.ofNat (r.rowSpan * r.colSpan - (t + 1)) := by
    have hone : r.rowSpan * r.colSpan - t = r.rowSpan * r.colSpan - (t + 1) + 1 := by omega
    rw [hone, UInt64.ofNat_add]
    exact UInt64.add_sub_cancel _ _
  rw [Walk.onward]
  by_cases hcol : t % r.colSpan + 1 = r.colSpan
  · -- At the end of a row the walk turns to the next one.
    rcases succ_div_mod_of_last r.colSpan_pos hcol with ⟨hdiv, hrem⟩
    rw [if_pos (hlast.mpr hcol)]
    simp only [walkAt, hremaining, hdiv, hrem, Nat.add_zero, UInt32.ofNat_toNat, ← Nat.add_assoc,
      UInt64.ofNat_add]
    rfl
  · rcases succ_div_mod_of_lt r.colSpan_pos (Nat.lt_of_le_of_ne hmod hcol) with ⟨hdiv, hrem⟩
    rw [if_neg (fun hc => hcol (hlast.mp hc))]
    simp only [walkAt, hremaining, hdiv, hrem, ← Nat.add_assoc, UInt32.ofNat_add]
    rfl

theorem Normal.toNat_rowCount {r : Range} (h : r.Normal) :
    r.rowCount.toNat = r.rowSpan % UInt32.size :=
  Word.toNat_sub_succ h.1

theorem Normal.toNat_colCount {r : Range} (h : r.Normal) :
    r.colCount.toNat = r.colSpan % UInt32.size :=
  Word.toNat_sub_succ h.2

/-- The product of two short words fits a long one. -/
theorem toNat_cellCount (r : Range) :
    r.cellCount.toNat = r.rowCount.toNat * r.colCount.toNat := by
  have hrows := UInt32.toNat_lt r.rowCount
  have hcols := UInt32.toNat_lt r.colCount
  rw [cellCount, UInt64.toNat_mul, UInt32.toNat_toUInt64, UInt32.toNat_toUInt64]
  refine Nat.mod_eq_of_lt ?_
  calc r.rowCount.toNat * r.colCount.toNat < 2 ^ 32 * 2 ^ 32 :=
        Nat.mul_lt_mul_of_lt_of_le hrows (Nat.le_of_lt hcols) (by decide)
    _ = 2 ^ 64 := by decide

theorem Countable.toNat_cellCount {r : Range} (h : r.Countable) :
    r.cellCount.toNat = r.rowSpan * r.colSpan := by
  rw [Range.toNat_cellCount, h.normal.toNat_rowCount, h.normal.toNat_colCount,
    Nat.mod_eq_of_lt h.rows, Nat.mod_eq_of_lt h.cols]

/-- What the walk has left after some steps is what is left of the area. -/
theorem Countable.toNat_remaining_walkAt {r : Range} (h : r.Countable) (t : Nat) :
    (r.walkAt t).remaining.toNat = r.rowSpan * r.colSpan - t := by
  have hcount := UInt64.toNat_lt_size r.cellCount
  rw [h.toNat_cellCount] at hcount
  exact UInt64.toNat_ofNat_of_lt' (Nat.lt_of_le_of_lt (Nat.sub_le _ t) hcount)

/-- The walk begins at the first place. -/
theorem Countable.walk_eq_walkAt {r : Range} (h : r.Countable) : r.walk = r.walkAt 0 := by
  rw [walk, walkAt, Nat.zero_div, Nat.zero_mod, Nat.add_zero, Nat.add_zero, Nat.sub_zero,
    UInt64.ofNat_uInt32ToNat, UInt32.ofNat_toNat, ← h.toNat_cellCount, UInt64.ofNat_toNat]

/-- A step visits the place that comes next. -/
theorem Countable.next?_walkAt {r : Range} (h : r.Countable) {t : Nat}
    (ht : t < r.rowSpan * r.colSpan) :
    (r.walkAt t).next? = some (r.place t, r.walkAt (t + 1)) := by
  have hremaining : (r.walkAt t).remaining ≠ 0 := by
    rw [← UInt64.toNat_inj.ne, h.toNat_remaining_walkAt, UInt64.toNat_zero]
    omega
  rw [Walk.next?, if_neg hremaining, here_walkAt, onward_walkAt h.normal ht]

/-- At the end of the area there is no next cell. -/
theorem next?_walkAt_end (r : Range) : (r.walkAt (r.rowSpan * r.colSpan)).next? = none := by
  rw [Walk.next?, walkAt, Nat.sub_self]
  rfl

/-- The number of the place is carried along; behind the last place a walk
    stands still. -/
theorem Countable.advance_walkAt {r : Range} (h : r.Countable) {n : Nat} :
    ∀ {t : Nat} {visited : List Address}, t ≤ r.rowSpan * r.colSpan →
      Walk.advance n (r.walkAt t) visited =
        (((List.range' t (min n (r.rowSpan * r.colSpan - t))).map r.place).reverse ++ visited,
          r.walkAt (t + min n (r.rowSpan * r.colSpan - t))) := by
  induction n with
  | zero =>
      intro t visited _
      rw [Nat.zero_min]
      rfl
  | succ n ih =>
      intro t visited ht
      -- Either there is a next cell, or the walk is over and stays where it is.
      rcases Nat.lt_or_eq_of_le ht with hlt | rfl
      · have hmin : min (n + 1) (r.rowSpan * r.colSpan - t) =
            min n (r.rowSpan * r.colSpan - (t + 1)) + 1 := by omega
        simp only [Walk.advance, h.next?_walkAt hlt]
        rw [ih hlt, hmin, List.range'_succ, List.map_cons, List.reverse_cons, List.append_assoc,
          List.singleton_append, Nat.add_assoc t 1, Nat.add_comm 1]
      · simp only [Walk.advance, next?_walkAt_end, Nat.sub_self, Nat.min_zero]
        rfl

/-- Some steps from the first cell visit as many places, unless there are no
    more, and lead to the place behind them. -/
theorem Countable.take_walk {r : Range} (h : r.Countable) (n : Nat) :
    r.walk.take n = ((List.range (min n (r.rowSpan * r.colSpan))).map r.place,
      r.walkAt (min n (r.rowSpan * r.colSpan))) := by
  have hrun := @advance_walkAt r h n 0 [] (Nat.zero_le _)
  rw [Nat.sub_zero, Nat.zero_add, List.append_nil] at hrun
  simp only [Walk.take, h.walk_eq_walkAt, hrun]
  rw [List.reverse_reverse, List.range_eq_range']

/-- A walk visits the places one after the other. -/
theorem Countable.cells_eq_map_place {r : Range} (h : r.Countable) :
    r.cells = (List.range (r.rowSpan * r.colSpan)).map r.place := by
  rw [cells, h.take_walk, h.toNat_cellCount, Nat.min_self]

/-- The cells of a range are those it contains. -/
theorem Countable.mem_cells_iff {r : Range} (h : r.Countable) (a : Address) :
    a ∈ r.cells ↔ r.contains a = true := by
  have hnormal := (normal_iff_toNat r).mp h.normal
  rw [h.cells_eq_map_place, List.mem_map, contains_iff_toNat]
  constructor
  · rintro ⟨t, ht, rfl⟩
    rw [List.mem_range] at ht
    have hmod := Nat.mod_lt t r.colSpan_pos
    have hdiv : t / r.colSpan < r.rowSpan := Nat.div_lt_of_lt_mul (by rwa [Nat.mul_comm] at ht)
    have hrows : r.rowSpan = r.last.row.toNat - r.first.row.toNat + 1 := rfl
    have hcols : r.colSpan = r.last.col.toNat - r.first.col.toNat + 1 := rfl
    rw [row_place h.normal ht, col_place h.normal]
    exact ⟨⟨Nat.le_add_right _ _, by omega⟩, Nat.le_add_right _ _, by omega⟩
  · rintro ⟨hrow, hcol⟩
    -- The row and the column, counted from the first cell, are the two digits of the place.
    have hrowlt : a.row.toNat - r.first.row.toNat < r.rowSpan := by
      rw [rowSpan]
      omega
    have hcollt : a.col.toNat - r.first.col.toNat < r.colSpan := by
      rw [colSpan]
      omega
    refine ⟨r.colSpan * (a.row.toNat - r.first.row.toNat) + (a.col.toNat - r.first.col.toNat),
      List.mem_range.mpr ?_, ?_⟩
    · calc r.colSpan * (a.row.toNat - r.first.row.toNat) + (a.col.toNat - r.first.col.toNat)
          < r.colSpan * (a.row.toNat - r.first.row.toNat) + r.colSpan := by omega
        _ = r.colSpan * (a.row.toNat - r.first.row.toNat + 1) := by rw [Nat.mul_add, Nat.mul_one]
        _ ≤ r.colSpan * r.rowSpan := Nat.mul_le_mul_left _ hrowlt
        _ = r.rowSpan * r.colSpan := Nat.mul_comm _ _
    · rw [place, Nat.mul_add_div r.colSpan_pos, Nat.mul_add_mod, Nat.div_eq_of_lt hcollt,
        Nat.mod_eq_of_lt hcollt, Nat.add_zero, Nat.add_sub_cancel' hrow.1,
        Nat.add_sub_cancel' hcol.1, UInt32.ofNat_toNat, UInt32.ofNat_toNat]

/-- The cells of a range come row by row, and none of them comes twice. -/
theorem Countable.pairwise_cells {r : Range} (h : r.Countable) :
    r.cells.Pairwise Address.Before := by
  rw [h.cells_eq_map_place, List.pairwise_map]
  refine List.pairwise_lt_range.imp_of_mem ?_
  intro t u ht hu hlt
  rw [List.mem_range] at ht hu
  have hdiv : t / r.colSpan ≤ u / r.colSpan := Nat.div_le_div_right (Nat.le_of_lt hlt)
  have htsplit := Nat.div_add_mod t r.colSpan
  have husplit := Nat.div_add_mod u r.colSpan
  rw [Address.Before, UInt32.lt_iff_toNat_lt, UInt32.lt_iff_toNat_lt, ← UInt32.toNat_inj,
    row_place h.normal ht, row_place h.normal hu, col_place h.normal, col_place h.normal]
  -- A smaller number has a smaller quotient, or the same one and a smaller remainder.
  by_cases heq : t / r.colSpan = u / r.colSpan
  · rw [heq] at htsplit
    omega
  · omega

theorem Countable.nodup_cells {r : Range} (h : r.Countable) : r.cells.Nodup := by
  refine h.pairwise_cells.imp fun {a b} hbefore heq => ?_
  rw [heq] at hbefore
  exact Std.Irrefl.irrefl b hbefore

theorem Countable.length_cells {r : Range} (h : r.Countable) :
    r.cells.length = r.cellCount.toNat := by
  rw [h.cells_eq_map_place, List.length_map, List.length_range, h.toNat_cellCount]

/-- The first steps of a walk visit the first cells. -/
theorem Countable.take_walk_fst {r : Range} (h : r.Countable) (n : Nat) :
    (r.walk.take n).1 = r.cells.take n := by
  rw [h.take_walk, h.cells_eq_map_place, ← List.map_take, List.take_range]

/-- After some steps the next cell is the one with that number, as long as
    there is one. -/
theorem Countable.next?_take_walk {r : Range} (h : r.Countable) (n : Nat) :
    (r.walk.take n).2.next?.map Prod.fst = r.cells[n]? := by
  rw [h.take_walk, h.cells_eq_map_place]
  rcases Nat.lt_or_ge n (r.rowSpan * r.colSpan) with hn | hn
  · rw [Nat.min_eq_left (Nat.le_of_lt hn), h.next?_walkAt hn, List.getElem?_map,
      List.getElem?_range hn]
    rfl
  · rw [Nat.min_eq_right hn, next?_walkAt_end, List.getElem?_eq_none]
    · rfl
    · rwa [List.length_map, List.length_range]

/-- After its first steps a walk has as many cells left as there are behind
    them. -/
theorem Countable.remaining_take_walk {r : Range} (h : r.Countable) (n : Nat) :
    (r.walk.take n).2.remaining.toNat = (r.cells.drop n).length := by
  rw [h.take_walk, h.toNat_remaining_walkAt, List.length_drop, h.length_cells, h.toNat_cellCount]
  omega

theorem sizeHint_of_lt {w : Walk} {limit : Nat} (h : w.remaining.toNat < limit) :
    w.sizeHint limit = (w.remaining.toNat, some w.remaining.toNat) := by
  rw [Walk.sizeHint, if_pos h]
  rfl

/-- A walk between two corners visits the cells of the range and no others,
    each of them once and row by row, and then it ends. At every step it knows
    how many are still to come, in any size that can say so, and one as long as
    the count always can. -/
theorem walk_visits_cells {a b : Address} (hrows : (ofCorners a b).rowSpan < UInt32.size)
    (hcols : (ofCorners a b).colSpan < UInt32.size) :
    let r := ofCorners a b
    (∀ c, c ∈ r.cells ↔ r.contains c = true) ∧ r.cells.Nodup ∧
      r.cells.Pairwise Address.Before ∧ r.cells.length = r.cellCount.toNat ∧
      ∀ n, (r.walk.take n).1 = r.cells.take n ∧
        (r.walk.take n).2.next?.map Prod.fst = r.cells[n]? ∧
        (∀ limit, (r.cells.drop n).length < limit → (r.walk.take n).2.sizeHint limit =
          ((r.cells.drop n).length, some (r.cells.drop n).length)) ∧
        (r.cells.drop n).length < UInt64.size := by
  intro r
  have h : r.Countable := ⟨normal_ofCorners a b, hrows, hcols⟩
  refine ⟨h.mem_cells_iff, h.nodup_cells, h.pairwise_cells, h.length_cells, fun n => ?_⟩
  refine ⟨h.take_walk_fst n, h.next?_take_walk n, fun limit hlimit => ?_, ?_⟩
  · rw [← h.remaining_take_walk] at hlimit ⊢
    exact sizeHint_of_lt hlimit
  · rw [← h.remaining_take_walk]
    exact UInt64.toNat_lt_size _

/-- The last two rows and columns that there are, with the corners crossed. -/
theorem walk_visits_cells_last :
    let r := ofCorners ⟨0xFFFFFFFF, 0xFFFFFFFE⟩ ⟨0xFFFFFFFE, 0xFFFFFFFF⟩
    r.rowSpan < UInt32.size ∧ r.colSpan < UInt32.size ∧
      r.cells = [⟨0xFFFFFFFE, 0xFFFFFFFE⟩, ⟨0xFFFFFFFE, 0xFFFFFFFF⟩, ⟨0xFFFFFFFF, 0xFFFFFFFE⟩,
        ⟨0xFFFFFFFF, 0xFFFFFFFF⟩] ∧
      (r.walk.take 3).2.sizeHint UInt64.size = (1, some 1) ∧
      (r.walk.take 3).2.next?.map Prod.fst = some ⟨0xFFFFFFFF, 0xFFFFFFFF⟩ ∧
      (r.walk.take 4).2.next?.map Prod.fst = none := by
  intro r
  have hrows : r.rowSpan < UInt32.size := by decide
  have hcols : r.colSpan < UInt32.size := by decide
  have hcells : r.cells = [⟨0xFFFFFFFE, 0xFFFFFFFE⟩, ⟨0xFFFFFFFE, 0xFFFFFFFF⟩,
      ⟨0xFFFFFFFF, 0xFFFFFFFE⟩, ⟨0xFFFFFFFF, 0xFFFFFFFF⟩] := by decide
  have hr : ofCorners ⟨0xFFFFFFFF, 0xFFFFFFFE⟩ ⟨0xFFFFFFFE, 0xFFFFFFFF⟩ = r := rfl
  rcases walk_visits_cells hrows hcols with ⟨-, -, -, -, hsteps⟩
  have hthird := hsteps 3
  have hfourth := hsteps 4
  simp only [hr, hcells] at hthird hfourth
  exact ⟨hrows, hcols, hcells, hthird.2.2.1 _ hthird.2.2.2, hthird.2.1, hfourth.2.1⟩

end Range

end Worksheet
