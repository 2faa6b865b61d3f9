import Worksheet.Formula.Value
import Worksheet.Proofs.Formula.Reference
import Worksheet.Proofs.Range.Clip

/-!
# The Cells between Two Corners

Which cells a range in a formula stands for, and in which order they are read.

A range is written as two corners, and each of them is two numbers that need
not belong to any cell. What counts is said on the numbers alone: a cell is
covered when its row, counted from one, lies between the two rows and its
column between the two columns, whichever of them comes first. So it does not
matter which two opposite corners are named, row zero adds nothing, and
neither does what lies beyond the limits.

A grid is read in the covered cells that are within the limits and within its
size, row by row. The range that is walked has gone through words, the
smallest one raised to one and the largest lowered to the limit, and through
the size of the grid; `mem_scan_iff` says that nothing was lost or added on
the way.

## Main definitions

* `Between`: A number lies between two others, named in any order.
* `Corners.Covers`: A cell lies between two corners.
* `Grid.Inside`: A cell lies within the size of a grid, if it has one.
* `Grid.scan`: The cells in which a grid is read for a range.

## Theorems

* `Corners.exists_range?_iff`: The cells of the range between two corners.
* `Corners.covers_ofParts_iff`: Numbers too large for a word cover the same.
* `Grid.mem_scan_iff`, `Grid.pairwise_scan`: The cells that are read, in order.
-/

namespace Worksheet

/-- A number lies between two others, named in any order. -/
def Between (m n x : Nat) : Prop :=
  min m n ≤ x ∧ x ≤ max m n

/-- It does not matter which bound is named first. -/
theorem between_comm {m n x : Nat} : Between m n x ↔ Between n m x := by
  rw [Between, Between, Nat.min_comm, Nat.max_comm]

namespace Corners

/-- The cell lies between two corners, whose lines are counted from one. -/
def Covers (c : Corners) (a : Address) : Prop :=
  Between c.first.row.toNat c.second.row.toNat (a.row.toNat + 1) ∧
    Between c.first.column.toNat c.second.column.toNat (a.col.toNat + 1)

variable {x y : UInt64} {limit : UInt32}

/-- One axis of a range: its first line raised to one and its last line lowered
    to the limit are indices counted from one, unless the first line is behind
    either. -/
theorem toNat_axis (h : ¬ max x y < max (min x y) 1)
    (h' : ¬ limit.toUInt64 < max (min x y) 1) :
    (max (min x y) 1 - 1).toUInt32.toNat + 1 = max (min x.toNat y.toNat) 1 ∧
      (min (max x y) limit.toUInt64 - 1).toUInt32.toNat + 1 =
        min (max x.toNat y.toNat) limit.toNat ∧
      max (min x.toNat y.toNat) 1 ≤ min (max x.toNat y.toNat) limit.toNat := by
  -- Neither subtraction underflows, as both ends are at least one, and neither
  -- index is cut off, as both are at most the limit.
  have hone : (1 : UInt64).toNat = 1 := rfl
  have hzero : (0 : UInt64).toNat = 0 := rfl
  have hfirst : (max (min x y) 1).toNat = max (min x.toNat y.toNat) 1 := by
    rw [UInt64.toNat_max, UInt64.toNat_min, hone]
  have hend : (min (max x y) limit.toUInt64).toNat = min (max x.toNat y.toNat) limit.toNat := by
    rw [UInt64.toNat_min, UInt64.toNat_max, UInt32.toNat_toUInt64]
  have hin : max (min x.toNat y.toNat) 1 ≤ max x.toNat y.toNat ∧
      max (min x.toNat y.toNat) 1 ≤ limit.toNat := by
    rw [UInt64.not_lt, UInt64.le_iff_toNat_le, hfirst] at h h'
    rw [UInt64.toNat_max] at h
    rw [UInt32.toNat_toUInt64] at h'
    exact ⟨h, h'⟩
  have hpos : 0 < max (min x y) 1 := by
    rw [UInt64.lt_iff_toNat_lt, hfirst, hzero]
    omega
  have hpos' : 0 < min (max x y) limit.toUInt64 := by
    rw [UInt64.lt_iff_toNat_lt, hend, hzero]
    omega
  have hle : min (max x y) limit.toUInt64 ≤ limit.toUInt64 := by
    rw [UInt64.le_iff_toNat_le, hend, UInt32.toNat_toUInt64]
    omega
  rw [Word.toNat_toUInt32_pred hpos (UInt64.not_lt.mp h'), Word.toNat_toUInt32_pred hpos' hle,
    hfirst, hend]
  omega

/-- On one axis, an index within the bounds counted from zero is one within the
    limit that lies between the two references counted from one. -/
theorem axis_iff {i : UInt32} (h : ¬ max x y < max (min x y) 1)
    (h' : ¬ limit.toUInt64 < max (min x y) 1) :
    (min (max (min x y) 1 - 1).toUInt32 (min (max x y) limit.toUInt64 - 1).toUInt32 ≤ i ∧
        i ≤ max (max (min x y) 1 - 1).toUInt32 (min (max x y) limit.toUInt64 - 1).toUInt32) ↔
      i < limit ∧ Between x.toNat y.toNat (i.toNat + 1) := by
  have haxis := toNat_axis h h'
  rw [UInt32.le_iff_toNat_le, UInt32.le_iff_toNat_le, UInt32.lt_iff_toNat_lt, UInt32.toNat_min,
    UInt32.toNat_max, Between]
  omega

/-- Where the bounds cross, no index lies between the two references. -/
theorem not_between_of_lt {i : UInt32}
    (h : max x y < max (min x y) 1 ∨ limit.toUInt64 < max (min x y) 1) :
    ¬ (i < limit ∧ Between x.toNat y.toNat (i.toNat + 1)) := by
  have hone : (1 : UInt64).toNat = 1 := rfl
  rw [UInt64.lt_iff_toNat_lt, UInt64.lt_iff_toNat_lt, UInt64.toNat_max, UInt64.toNat_max,
    UInt64.toNat_min, UInt32.toNat_toUInt64, hone] at h
  rw [UInt32.lt_iff_toNat_lt, Between]
  omega

/-- The cells of the range between two corners are those that are covered, as
    far as the limits reach. -/
theorem exists_range?_iff (c : Corners) (a : Address) :
    (∃ r, c.range? = some r ∧ r.contains a = true) ↔ a.InLimits ∧ c.Covers a := by
  have hcells : a.InLimits ∧ c.Covers a ↔
      (a.row < maxRows ∧ Between c.first.row.toNat c.second.row.toNat (a.row.toNat + 1)) ∧
      (a.col < maxCols ∧ Between c.first.column.toNat c.second.column.toNat (a.col.toNat + 1)) := by
    rw [Address.InLimits, Covers, and_and_and_comm]
  rw [hcells]
  simp only [range?]
  -- The two tests fail on the axis where nothing can be covered; past them the
  -- axes are independent.
  by_cases hempty : max c.first.row c.second.row < max (min c.first.row c.second.row) 1 ∨
      max c.first.column c.second.column < max (min c.first.column c.second.column) 1
  · simp only [if_pos hempty, reduceCtorEq, false_and, exists_false, false_iff]
    rintro ⟨hrow, hcol⟩
    rcases hempty with h | h
    · exact not_between_of_lt (.inl h) hrow
    · exact not_between_of_lt (.inl h) hcol
  by_cases hbeyond : maxRows.toUInt64 < max (min c.first.row c.second.row) 1 ∨
      maxCols.toUInt64 < max (min c.first.column c.second.column) 1
  · simp only [if_neg hempty, if_pos hbeyond, reduceCtorEq, false_and, exists_false, false_iff]
    rintro ⟨hrow, hcol⟩
    rcases hbeyond with h | h
    · exact not_between_of_lt (.inr h) hrow
    · exact not_between_of_lt (.inr h) hcol
  · simp only [if_neg hempty, if_neg hbeyond, Option.some.injEq, exists_eq_left']
    rw [not_or] at hempty hbeyond
    rw [Range.contains_iff]
    exact and_congr (axis_iff hempty.1 hbeyond.1) (axis_iff hempty.2 hbeyond.2)

/-- The range of a pair of corners is in order. -/
theorem normal_of_range? {c : Corners} {r : Range} (h : c.range? = some r) : r.Normal := by
  rw [range?] at h
  split_ifs at h
  rw [← Option.some.inj h]
  exact Range.normal_ofCorners _ _

/-- Counted from one, the corners of the range are the smaller numbers raised to
    one and the larger ones lowered to the limits. -/
theorem corners_of_range? {c : Corners} {r : Range} (h : c.range? = some r) :
    r.first.row.toNat + 1 = max (min c.first.row.toNat c.second.row.toNat) 1 ∧
      r.last.row.toNat + 1 = min (max c.first.row.toNat c.second.row.toNat) maxRows.toNat ∧
      r.first.col.toNat + 1 = max (min c.first.column.toNat c.second.column.toNat) 1 ∧
      r.last.col.toNat + 1 = min (max c.first.column.toNat c.second.column.toNat) maxCols.toNat := by
  rw [range?] at h
  split_ifs at h with hempty hbeyond
  rw [not_or] at hempty hbeyond
  have hrow := toNat_axis hempty.1 hbeyond.1
  have hcol := toNat_axis hempty.2 hbeyond.2
  rw [← Option.some.inj h]
  simp only [Range.ofCorners, UInt32.toNat_min, UInt32.toNat_max]
  omega

/-- Ranges of corners end within the limits, so their cells can be counted. -/
theorem countable_of_range? {c : Corners} {r : Range} (h : c.range? = some r) : r.Countable := by
  have hnormal := normal_of_range? h
  -- The last corner is a cell of the range, so it is within the limits.
  exact hnormal.countable ((exists_range?_iff c r.last).mp ⟨r, h, hnormal.contains_last⟩).1

/-- A line so far out that it does not fit a word lies behind every cell, and so
    does the largest word. -/
theorem between_saturate_iff {m n : Nat} {i : UInt32} :
    Between (Numeral.saturate m).toNat (Numeral.saturate n).toNat (i.toNat + 1) ↔
      Between m n (i.toNat + 1) := by
  have hsize : UInt64.size = 18446744073709551616 := rfl
  have hi := UInt32.toNat_lt i
  rw [Numeral.toNat_saturate, Numeral.toNat_saturate, Between, Between]
  omega

/-- Covering is a matter of the unbounded values of the digits and letters:
    saturating them changes nothing below the limits. -/
theorem covers_ofParts_iff (letters digits letters' digits' : List Char) (a : Address) :
    Covers ⟨.ofParts letters digits, .ofParts letters' digits'⟩ a ↔
      Between (Numeral.decimalValue digits) (Numeral.decimalValue digits') (a.row.toNat + 1) ∧
        Between (Column.value letters) (Column.value letters') (a.col.toNat + 1) := by
  simp only [Covers, Reference.ofParts, between_saturate_iff]

end Corners

namespace Grid

/-- The cell lies within the size of a grid, if it has one. -/
def Inside (g : Grid) (a : Address) : Prop :=
  ∀ rows cols, g.size = some (rows, cols) → a.row < rows ∧ a.col < cols

/-- The cells in which a grid is read for a range, in the order of reading. -/
def scan (g : Grid) (c : Corners) : List Address :=
  match g.clipped c with
  | some r => r.cells
  | none => []

/-- The numbers of an aggregate are the cells of the scan that read as numbers,
    in the order of the scan. -/
theorem numbers_eq_filterMap_scan (g : Grid) (c : Corners) :
    g.numbers c = (g.scan c).filterMap g.numberAt? := by
  rw [numbers, scan]
  cases g.clipped c with
  | some r => rfl
  | none => rfl

/-- The scan walks the clipped range, and is empty if there is none. -/
theorem scan_eq_elim (g : Grid) (c : Corners) : g.scan c = (g.clipped c).elim [] Range.cells := by
  rw [scan]
  cases g.clipped c with
  | some r => rfl
  | none => rfl

theorem countable_of_clipped {g : Grid} {c : Corners} {r : Range} (h : g.clipped c = some r) :
    r.Countable := by
  rcases Option.bind_eq_some_iff.mp h with ⟨r', hrange, hclip⟩
  exact (Corners.countable_of_range? hrange).clip hclip

/-- For an address within the limits, to be inside the grid is to be inside its
    bounds. -/
theorem inside_iff_of_inLimits {g : Grid} {a : Address} (h : a.InLimits) :
    g.Inside a ↔ a.row < g.bounds.1 ∧ a.col < g.bounds.2 := by
  rw [Inside, bounds]
  cases g.size with
  | none =>
      -- Without a size a grid is read as far as the limits reach.
      refine ⟨fun _ => h, fun _ rows cols hsize => ?_⟩
      exact absurd hsize (by simp only [reduceCtorEq, not_false_eq_true])
  | some size =>
      refine ⟨fun hin => hin size.1 size.2 rfl, fun hin rows cols hsize => ?_⟩
      rw [Option.some.injEq] at hsize
      rw [hsize] at hin
      exact hin

/-- A grid is read in the cells that are covered and lie within the limits and
    within its size. -/
theorem mem_scan_iff (g : Grid) (c : Corners) (a : Address) :
    a ∈ g.scan c ↔ a.InLimits ∧ g.Inside a ∧ c.Covers a := by
  have hclipped : (∃ r, g.clipped c = some r ∧ r.contains a = true) ↔
      a.InLimits ∧ g.Inside a ∧ c.Covers a := by
    constructor
    · rintro ⟨r, hclipped, ha⟩
      rcases Option.bind_eq_some_iff.mp hclipped with ⟨r', hrange, hclip⟩
      have hnormal := (Corners.countable_of_range? hrange).normal
      rcases (hnormal.exists_clip_iff _ _ a).mp ⟨r, hclip, ha⟩ with ⟨ha', hin⟩
      rcases (Corners.exists_range?_iff c a).mp ⟨r', hrange, ha'⟩ with ⟨hlimits, hcovers⟩
      exact ⟨hlimits, (inside_iff_of_inLimits hlimits).mpr hin, hcovers⟩
    · rintro ⟨hlimits, hin, hcovers⟩
      rcases (Corners.exists_range?_iff c a).mpr ⟨hlimits, hcovers⟩ with ⟨r', hrange, ha'⟩
      have hnormal := (Corners.countable_of_range? hrange).normal
      rcases (hnormal.exists_clip_iff _ _ a).mpr
        ⟨ha', (inside_iff_of_inLimits hlimits).mp hin⟩ with ⟨r, hclip, ha⟩
      exact ⟨r, Option.bind_eq_some_iff.mpr ⟨r', hrange, hclip⟩, ha⟩
  rw [← hclipped, scan_eq_elim]
  exact Range.mem_elim_cells_iff (fun _ => countable_of_clipped) a

/-- The cells are read row by row, and none of them twice. -/
theorem pairwise_scan (g : Grid) (c : Corners) : (g.scan c).Pairwise Address.Before := by
  rw [scan_eq_elim]
  exact Range.pairwise_elim_cells fun _ => countable_of_clipped

/-- In order there is only one list of these cells. -/
theorem scan_eq_of_covers_iff (g : Grid) {c c' : Corners} (h : ∀ a, c.Covers a ↔ c'.Covers a) :
    g.scan c = g.scan c' := by
  refine (g.pairwise_scan c).eq_of_mem_iff (g.pairwise_scan c') fun a => ?_
  rw [mem_scan_iff, mem_scan_iff, h]

end Grid

end Worksheet
