import Worksheet.Proofs.Csv.RoundTrip
import Worksheet.Proofs.Sheet.Validity

/-!
# The Content of a Sheet

The rows that are written of a sheet, and that they hold all of it.

A sheet is written from its first cell to the end of its used range. In a
valid sheet the used range is within the size and the size within the limits,
so counting on from its last row and column does not wrap. Every cell that
holds something is then inside the rectangle, and the rows of the raw texts
hold exactly what the sheet does.

## Theorems

* `getElem?_map_rectangle`, `length_of_mem_map_rectangle`: What stands at a
  place of a rectangle, and how wide it is.
* `Valid.lt_usedSize`, `Valid.usedSize_le`: The rectangle is large enough, and
  no larger than the sheet.
* `textIn_contentRows`: The text at an address in the written rows.
* `Valid.textIn_contentRows`: Nothing is left out of what is written.
* `Valid.textIn_contentRows_raw`: The raw texts are those of the sheet.
* `Valid.length_contentRows_le`: They are within the limits.
-/

namespace Worksheet

namespace Sheet

open Csv (textIn contentRows contentAt)

/-- What a rectangle of cells is mapped to, at a place inside or outside. -/
theorem getElem?_map_rectangle {α : Type} (f : Address → α) (rows cols : UInt32) (i j : Nat) :
    (((rectangle rows cols).map (List.map f))[i]?.getD [])[j]? =
      if i < rows.toNat ∧ j < cols.toNat then some (f ⟨UInt32.ofNat i, UInt32.ofNat j⟩)
      else none := by
  rw [rectangle, List.map_map, List.getElem?_map]
  -- Outside the rows there is no row, and outside the columns nothing in it.
  by_cases hi : i < rows.toNat
  · rw [List.getElem?_range hi, Option.map_some, Option.getD_some, Function.comp_apply,
      List.map_map, List.getElem?_map]
    by_cases hj : j < cols.toNat
    · rw [List.getElem?_range hj, if_pos ⟨hi, hj⟩]
      rfl
    · rw [List.getElem?_eq_none (by rw [List.length_range]; omega), if_neg (fun h => hj h.2)]
      rfl
  · have hnone : (List.range rows.toNat)[i]? = none :=
      List.getElem?_eq_none (by rw [List.length_range]; omega)
    rw [hnone, if_neg (fun h => hi h.1)]
    rfl

theorem length_rectangle (rows cols : UInt32) : (rectangle rows cols).length = rows.toNat := by
  rw [rectangle, List.length_map, List.length_range]

/-- Every row of a rectangle that is mapped has a place for each column. -/
theorem length_of_mem_map_rectangle {α : Type} {f : Address → α} {rows cols : UInt32}
    {row : List α} (h : row ∈ (rectangle rows cols).map (List.map f)) :
    row.length = cols.toNat := by
  rcases List.mem_map.mp h with ⟨addresses, haddresses, rfl⟩
  rcases List.mem_map.mp haddresses with ⟨i, -, rfl⟩
  rw [List.length_map, List.length_map, List.length_range]

/-- The text at an address in the written rows: the content of the cell within
    the rectangle, and nothing outside. -/
theorem textIn_contentRows (content : Csv.Content) (s : Sheet) (a : Address) :
    textIn (contentRows content s) a =
      if a.row < s.usedSize.1 ∧ a.col < s.usedSize.2 then contentAt content s a else "" := by
  rw [textIn, contentRows, getElem?_map_rectangle, UInt32.ofNat_toNat, UInt32.ofNat_toNat]
  simp only [UInt32.lt_iff_toNat_lt]
  by_cases h : a.row.toNat < s.usedSize.1.toNat ∧ a.col.toNat < s.usedSize.2.toNat
  · rw [if_pos h, if_pos h, Option.getD_some]
  · rw [if_neg h, if_neg h, Option.getD_none]

/-- The rectangle of a valid sheet ends behind the last used row and column. -/
theorem Valid.toNat_usedSize {s : Sheet} (hs : s.Valid) {r : Range} (h : s.usedRange? = some r) :
    s.usedSize.1.toNat = r.last.row.toNat + 1 ∧ s.usedSize.2.toNat = r.last.col.toNat + 1 := by
  rcases hs.usedRange?_lt h with ⟨-, hrow, hcol⟩
  rw [usedSize, h]
  exact ⟨Word.toNat_succ_of_lt hrow, Word.toNat_succ_of_lt hcol⟩

theorem Valid.usedSize_le {s : Sheet} (hs : s.Valid) :
    s.usedSize.1.toNat ≤ s.rows.toNat ∧ s.usedSize.2.toNat ≤ s.cols.toNat := by
  rcases h : s.usedRange? with _ | r
  · rw [usedSize, h]
    exact ⟨Nat.zero_le _, Nat.zero_le _⟩
  · rcases hs.usedRange?_lt h with ⟨-, hrow, hcol⟩
    rcases hs.toNat_usedSize h with ⟨hrows, hcols⟩
    rw [UInt32.lt_iff_toNat_lt] at hrow hcol
    exact ⟨by omega, by omega⟩

/-- Every cell that holds something is within the rectangle. -/
theorem Valid.lt_usedSize {s : Sheet} (hs : s.Valid) {a : Address} (ha : s.text a ≠ "") :
    a.row < s.usedSize.1 ∧ a.col < s.usedSize.2 := by
  have hmem : a ∈ s.cells := (mem_cells_iff_text s hs.nonempty a).mpr ha
  rcases h : s.usedRange? with _ | r
  · exact absurd hmem ((usedRange?_eq_none_iff s).mp h a)
  · -- The used range holds the cell, and the rectangle reaches past its last corner.
    have hin := (Range.contains_iff r a).mp ((isHull_of_usedRange? h).holds a hmem)
    rcases hs.toNat_usedSize h with ⟨hrows, hcols⟩
    have hrow := UInt32.le_iff_toNat_le.mp hin.1.2
    have hcol := UInt32.le_iff_toNat_le.mp hin.2.2
    rw [UInt32.lt_iff_toNat_lt, UInt32.lt_iff_toNat_lt]
    exact ⟨by omega, by omega⟩

/-- Nothing is left out of what is written of a valid sheet, as long as
    nothing is written for the cells that hold nothing. -/
theorem Valid.textIn_contentRows {s : Sheet} (hs : s.Valid) {content : Csv.Content}
    (h : ∀ a, s.text a = "" → contentAt content s a = "") (a : Address) :
    textIn (contentRows content s) a = contentAt content s a := by
  rw [Sheet.textIn_contentRows]
  by_cases hin : a.row < s.usedSize.1 ∧ a.col < s.usedSize.2
  · rw [if_pos hin]
  · -- A text out there would have made the rectangle larger.
    have hempty : s.text a = "" := by
      by_contra hne
      exact hin (hs.lt_usedSize hne)
    rw [if_neg hin, h a hempty]

/-- The written raw texts of a valid sheet are all of its texts. -/
theorem Valid.textIn_contentRows_raw {s : Sheet} (hs : s.Valid) (a : Address) :
    textIn (contentRows .raw s) a = s.text a :=
  @Valid.textIn_contentRows s hs .raw (fun _ h => h) a

/-- The written rows of a valid sheet are within the limits. -/
theorem Valid.length_contentRows_le {s : Sheet} (hs : s.Valid) (content : Csv.Content) :
    (contentRows content s).length ≤ maxRows.toNat ∧
      ∀ row ∈ contentRows content s, row.length ≤ maxCols.toNat := by
  have hrows := UInt32.le_iff_toNat_le.mp hs.rows_le
  have hcols := UInt32.le_iff_toNat_le.mp hs.cols_le
  rcases hs.usedSize_le with ⟨hused, hused'⟩
  refine ⟨?_, fun row hrow => ?_⟩
  · rw [contentRows, List.length_map, length_rectangle]
    omega
  · rw [length_of_mem_map_rectangle hrow]
    omega

end Sheet

end Worksheet
