import Mathlib.Data.Set.Card
import Worksheet.Proofs.Csv.Reading
import Worksheet.Proofs.Formula.Shown
import Worksheet.Proofs.Sheet.Content

/-!
# Displays Agree

That a sheet shows the same wherever it is shown.

There are three ways to see what the cells of a sheet show. One cell can be
asked for, which passes over empty texts; a rectangle of cells can be
displayed, which tells formulas from other texts by their first character; and
the sheet can be written to a file, which evaluates every text there is. They
come to the same, since a text that does not start like a formula is its own
value, and the empty text is one of them.

The full display covers the size of a sheet and the short one stops at the end
of the used range. In a valid sheet every cell that holds something is within
both, and a rectangle goes over each of its cells once. So both count the same
formulas and the same faults, and these are the ones that the sheet stores.

## Main definitions

* `Display.Spans`: The numbers of rows and columns of a display.
* `Sheet.formulaCells`, `Sheet.faultCells`: The cells that hold a formula, and
  those of them that show a fault.

## Theorems

* `rows_displayOf`, `get?_displayOf`: A display shows what the cells show.
* `countP_flatten_rectangle`: Counting along a rectangle is counting cells.
* `counts_displayOf`: What a display counts.
* `displays_agree`: All displays of a reachable sheet agree.
-/

namespace Worksheet

/-- The display has this many rows, and this many columns in each of them. -/
structure Display.Spans (d : Display) (rows cols : Nat) : Prop where
  /-- There are as many rows of texts. -/
  length : d.rows.length = rows
  /-- That is also their number as a word. -/
  rowCount : d.rowCount.toNat = rows
  /-- The number of columns. -/
  colCount : d.cols.toNat = cols
  /-- There are as many texts in every row. -/
  width : ∀ row ∈ d.rows, row.length = cols

namespace Sheet

/-- The cells that hold a formula. -/
def formulaCells (s : Sheet) : Set Address :=
  {a | ∃ t, s.cells[a]? = some t ∧ isFormulaText t = true}

/-- The cells that hold a formula and show a fault. -/
def faultCells (s : Sheet) : Set Address :=
  {a | ∃ t, s.cells[a]? = some t ∧ isFormulaText t = true ∧ ∃ f, s.grid.value t = .fault f}

/-- The empty text is no formula, so passing over it changes nothing. -/
theorem shownAt_eq_shown (s : Sheet) (a : Address) : s.shownAt a = s.grid.shown (s.text a) := by
  unfold shownAt
  by_cases h : (s.text a).isEmpty = true
  · rw [if_pos h, String.isEmpty_iff.mp h, s.grid.shown_eq_empty_iff.mpr rfl]
  · rw [if_neg h]

theorem cellShown_of_not_formula {s : Sheet} {a : Address} (h : isFormulaText (s.text a) = false) :
    s.cellShown a = ⟨s.text a, false, false⟩ := by
  unfold cellShown
  rw [if_neg (by rw [h]; exact Bool.false_ne_true)]

/-- A formula is shown by its value, and marked when this is a fault. -/
theorem cellShown_of_formula {s : Sheet} {a : Address} (h : isFormulaText (s.text a) = true) :
    ∃ fault, s.cellShown a = ⟨s.shownAt a, true, fault⟩ ∧
      (fault = true ↔ ∃ f, s.grid.value (s.text a) = .fault f) := by
  unfold cellShown
  rw [if_pos h, shownAt_eq_shown, Grid.shown]
  cases s.grid.value (s.text a) with
  | text t => exact ⟨false, rfl, by simp only [Bool.false_eq_true, reduceCtorEq, exists_false]⟩
  | number x => exact ⟨false, rfl, by simp only [Bool.false_eq_true, reduceCtorEq, exists_false]⟩
  | fault f => exact ⟨true, rfl, by simp only [Value.fault.injEq, exists_eq', iff_self]⟩

theorem formula_cellShown_iff {s : Sheet} {a : Address} :
    (s.cellShown a).formula = true ↔ isFormulaText (s.text a) = true := by
  cases h : isFormulaText (s.text a) with
  | true =>
      rcases cellShown_of_formula h with ⟨fault, hcell, -⟩
      rw [hcell]
  | false => rw [cellShown_of_not_formula h]

theorem fault_cellShown_iff {s : Sheet} {a : Address} : (s.cellShown a).fault = true ↔
    isFormulaText (s.text a) = true ∧ ∃ f, s.grid.value (s.text a) = .fault f := by
  cases h : isFormulaText (s.text a) with
  | true =>
      rcases cellShown_of_formula h with ⟨fault, hcell, hfault⟩
      rw [hcell, hfault, eq_self_iff_true, true_and]
  | false => simp only [cellShown_of_not_formula h, Bool.false_eq_true, false_and]

/-- What stands in a rendered cell is the shown text. -/
theorem text_cellShown (s : Sheet) (a : Address) : (s.cellShown a).text = s.shownAt a := by
  cases h : isFormulaText (s.text a) with
  | true =>
      rcases cellShown_of_formula h with ⟨fault, hcell, -⟩
      rw [hcell]
  | false =>
      rw [cellShown_of_not_formula h, shownAt_eq_shown, s.grid.shown_of_not_formula h]

/-- The rows of a rendering are the shown texts of a rectangle of addresses. -/
theorem rows_displayOf (s : Sheet) (rows cols : UInt32) :
    (s.displayOf rows cols).rows = (rectangle rows cols).map (List.map s.shownAt) := by
  simp only [displayOf, Display.ofShown, List.map_map]
  refine List.map_congr_left fun row _ => ?_
  rw [Function.comp_apply, List.map_map]
  exact List.map_congr_left fun a _ => text_cellShown s a

/-- A display shows what the cells show, and nothing outside. -/
theorem get?_displayOf (s : Sheet) (rows cols : UInt32) (a : Address) :
    (s.displayOf rows cols).get? a =
      if a.row < rows ∧ a.col < cols then some (s.shownAt a) else none := by
  have hplace := getElem?_map_rectangle s.shownAt rows cols a.row.toNat a.col.toNat
  rw [UInt32.ofNat_toNat, UInt32.ofNat_toNat] at hplace
  simp only [UInt32.lt_iff_toNat_lt]
  rw [← hplace, Display.get?, rows_displayOf]
  rcases ((rectangle rows cols).map (List.map s.shownAt))[a.row.toNat]? with _ | row <;> rfl

theorem spans_displayOf (s : Sheet) (rows cols : UInt32) :
    (s.displayOf rows cols).Spans rows.toNat cols.toNat where
  length := by rw [rows_displayOf, List.length_map, length_rectangle]
  rowCount := by
    rw [Display.rowCount, rows_displayOf, List.length_map, length_rectangle, UInt32.ofNat_toNat]
  colCount := rfl
  width := by
    intro row hrow
    rw [rows_displayOf] at hrow
    exact length_of_mem_map_rectangle hrow

theorem mem_flatten_rectangle {rows cols : UInt32} {a : Address} :
    a ∈ (rectangle rows cols).flatten ↔ a.row < rows ∧ a.col < cols := by
  simp only [rectangle, List.mem_flatten, List.mem_map, List.mem_range, UInt32.lt_iff_toNat_lt]
  constructor
  · rintro ⟨row, ⟨i, hi, rfl⟩, hrow⟩
    rcases List.mem_map.mp hrow with ⟨j, hj, rfl⟩
    rw [List.mem_range] at hj
    exact ⟨by rwa [Word.toNat_ofNat_of_lt hi], by rwa [Word.toNat_ofNat_of_lt hj]⟩
  · rintro ⟨hrow, hcol⟩
    refine ⟨_, ⟨a.row.toNat, hrow, rfl⟩, List.mem_map.mpr ⟨a.col.toNat, ?_, ?_⟩⟩
    · exact List.mem_range.mpr hcol
    · rw [UInt32.ofNat_toNat, UInt32.ofNat_toNat]

/-- Words below the size tell rows apart, and the places in a row. -/
theorem nodup_flatten_rectangle (rows cols : UInt32) : (rectangle rows cols).flatten.Nodup := by
  have hinj : ∀ {size : UInt32} {i j : Nat}, i < size.toNat → j < size.toNat →
      UInt32.ofNat i = UInt32.ofNat j → i = j := by
    intro size i j hi hj h
    rw [← Word.toNat_ofNat_of_lt hi, h, Word.toNat_ofNat_of_lt hj]
  rw [rectangle, List.nodup_flatten]
  -- Within a row the columns differ, and two rows differ by their number.
  constructor
  · intro row hrow
    rcases List.mem_map.mp hrow with ⟨i, -, rfl⟩
    refine List.Nodup.map_on (fun j hj k hk h => ?_) List.nodup_range
    rw [Address.mk.injEq] at h
    exact hinj (List.mem_range.mp hj) (List.mem_range.mp hk) h.2
  · rw [List.pairwise_map]
    refine List.Pairwise.imp_of_mem (fun hi hk hne => ?_) List.nodup_range
    rw [List.disjoint_left]
    rintro a ha ha'
    rcases List.mem_map.mp ha with ⟨j, -, rfl⟩
    rcases List.mem_map.mp ha' with ⟨j', -, h⟩
    rw [Address.mk.injEq] at h
    exact hne (hinj (List.mem_range.mp hi) (List.mem_range.mp hk) h.1.symm)

/-- Counting along a rectangle is counting cells, when they are all in it. -/
theorem countP_flatten_rectangle {rows cols : UInt32} {p : Address → Bool}
    (h : ∀ a, p a = true → a.row < rows ∧ a.col < cols) :
    (rectangle rows cols).flatten.countP p = {a | p a = true}.ncard := by
  have hset : {a | p a = true} = (((rectangle rows cols).flatten.filter p).toFinset : Set Address) := by
    ext a
    simp only [List.coe_toFinset, List.mem_filter, mem_flatten_rectangle, Set.mem_ofPred_eq]
    exact ⟨fun hp => ⟨h a hp, hp⟩, fun hp => hp.2⟩
  rw [hset, Set.ncard_coe_finset, List.toFinset_card_of_nodup
    ((nodup_flatten_rectangle rows cols).filter p), List.countP_eq_length_filter]

/-- What is not true of the empty text holds of a stored text when it holds of
    the text seen there. -/
theorem exists_cells_iff_text {s : Sheet} {a : Address} {P : String → Prop} (h : ¬ P "") :
    (∃ t, s.cells[a]? = some t ∧ P t) ↔ P (s.text a) := by
  rw [text]
  cases s.cells[a]? with
  | none => simp only [reduceCtorEq, false_and, exists_false, Option.getD_none, h]
  | some t => simp only [Option.some.injEq, exists_eq_left', Option.getD_some]

/-- The counts of a display that holds everything there is are those of the
    cells that hold formulas. -/
theorem counts_displayOf {s : Sheet} {rows cols : UInt32}
    (h : ∀ a, s.text a ≠ "" → a.row < rows ∧ a.col < cols) :
    (s.displayOf rows cols).formulas = s.formulaCells.ncard ∧
      (s.displayOf rows cols).faults = s.faultCells.ncard := by
  -- Only cells that hold something are counted, and all of them are displayed.
  have hempty : ¬ isFormulaText "" = true := by decide
  have hin : ∀ a, isFormulaText (s.text a) = true → a.row < rows ∧ a.col < cols :=
    fun a ha => h a fun hc => hempty (hc ▸ ha)
  have hformulas : {a | (s.cellShown a).formula = true} = s.formulaCells := by
    ext a
    exact formula_cellShown_iff.trans
      (exists_cells_iff_text (P := fun t => isFormulaText t = true) hempty).symm
  have hfaults : {a | (s.cellShown a).fault = true} = s.faultCells := by
    ext a
    exact fault_cellShown_iff.trans (exists_cells_iff_text
      (P := fun t => isFormulaText t = true ∧ ∃ f, s.grid.value t = .fault f)
      fun hc => hempty hc.1).symm
  simp only [displayOf, Display.ofShown, ← List.map_flatten, List.countP_map]
  refine ⟨?_, ?_⟩
  · rw [← hformulas]
    exact countP_flatten_rectangle fun a ha => hin a (formula_cellShown_iff.mp ha)
  · rw [← hfaults]
    exact countP_flatten_rectangle fun a ha => hin a (fault_cellShown_iff.mp ha).1

/-- The export of shown texts and the rendering of the used range have the same
    rows. -/
theorem contentRows_shown (s : Sheet) : Csv.contentRows .shown s = s.displayUsed.rows := by
  rw [displayUsed, rows_displayOf, Csv.contentRows]
  refine List.map_congr_left fun row _ => List.map_congr_left fun a _ => ?_
  rw [Csv.contentAt, shownAt_eq_shown]

/-- The short display of a valid sheet has a text in each of its rows. -/
theorem Valid.ne_nil_of_mem_displayUsed {s : Sheet} (hs : s.Valid) :
    ∀ row ∈ s.displayUsed.rows, row ≠ [] := by
  intro row hrow
  rw [displayUsed, rows_displayOf] at hrow
  rw [ne_eq, ← List.length_eq_zero_iff, length_of_mem_map_rectangle hrow]
  rcases hused : s.usedRange? with _ | r
  · -- Without a used range there is no row at all.
    rw [usedSize, hused] at hrow
    exact absurd hrow List.not_mem_nil
  · rw [(hs.toNat_usedSize hused).2]
    exact Nat.succ_ne_zero _

/-- All displays of a reachable sheet agree. The full one shows in each place
    of the size what the cell shows, and nothing outside. The short one ends
    with the used range and shows the same there. Its rows are those that are
    written to a file, and the bytes in the file are read back as these rows.
    Both displays count the formulas and faults of the sheet. -/
theorem displays_agree {s : Sheet} (hs : s.Reachable) :
    (∀ a, s.display.get? a = if a.row < s.rows ∧ a.col < s.cols then some (s.shownAt a) else none) ∧
    ((s.usedRange? = none → s.displayUsed.Spans 0 0) ∧
      (∀ r, s.usedRange? = some r →
        s.displayUsed.Spans (r.last.row.toNat + 1) (r.last.col.toNat + 1)) ∧
      ∀ a t, s.displayUsed.get? a = some t → s.display.get? a = some t) ∧
    (Csv.contentRows .shown s = s.displayUsed.rows ∧
      (∀ d e, Csv.write ⟨d, e, .shown⟩ s = Csv.writeRows d e s.displayUsed.rows) ∧
      ∀ d : Csv.Dialect, d.Regular → ∀ e, Csv.RowsOf false
        (Csv.recordsFrom d .origin (Csv.write ⟨d, e, .shown⟩ s)) s.displayUsed.rows) ∧
    (s.display.formulas = s.formulaCells.ncard ∧ s.display.faults = s.faultCells.ncard) ∧
    s.displayUsed.formulas = s.formulaCells.ncard ∧ s.displayUsed.faults = s.faultCells.ncard := by
  have hvalid := hs.valid
  have hinside : ∀ a, s.text a ≠ "" → a.row < s.rows ∧ a.col < s.cols := fun a ha =>
    hvalid.inside a ((mem_cells_iff_text s hvalid.nonempty a).mpr ha)
  have hspans := s.spans_displayOf s.usedSize.1 s.usedSize.2
  refine ⟨s.get?_displayOf s.rows s.cols, ⟨fun hnone => ?_, fun r hr => ?_, fun a t ht => ?_⟩,
    ⟨s.contentRows_shown, fun d e => ?_, fun d hd e => ?_⟩, counts_displayOf hinside,
    counts_displayOf fun a ha => hvalid.lt_usedSize ha⟩
  · have hsize : s.usedSize = (0, 0) := by
      rw [usedSize, hnone]
    rw [hsize] at hspans
    rw [displayUsed, hsize]
    exact hspans
  · rcases hvalid.toNat_usedSize hr with ⟨hrows, hcols⟩
    rw [hrows, hcols] at hspans
    exact hspans
  · -- The short display is within the full one.
    rcases hvalid.usedSize_le with ⟨hrows, hcols⟩
    rw [displayUsed, get?_displayOf] at ht
    rw [display, get?_displayOf]
    simp only [UInt32.lt_iff_toNat_lt] at ht ⊢
    by_cases hin : a.row.toNat < s.usedSize.1.toNat ∧ a.col.toNat < s.usedSize.2.toNat
    · rw [if_pos hin] at ht
      rw [if_pos ⟨by omega, by omega⟩, ht]
    · rw [if_neg hin] at ht
      exact absurd ht (by simp only [reduceCtorEq, not_false_eq_true])
  · rw [Csv.write, contentRows_shown]
  · rw [Csv.write, contentRows_shown]
    exact Csv.rowsOf_writeRows hd e .origin hvalid.ne_nil_of_mem_displayUsed

/-- A formula that shows a fault and one that does not, between texts that only
    look like them, in a sheet with room left. The second row is read back from
    what is written with semicolons. -/
theorem displays_agree_fault :
    let s := (fresh "Marks").run
      [.change (.writeA1 "A1" " =B2+1"), .change (.writeA1 "B2" "#DIV/0"),
        .change (.writeA1 "C2" "\uFEFF=1/0"), .change (.writeA1 "A3" "'=1")]
    s.displayUsed.Spans 3 3 ∧ s.display.get? ⟨1, 2⟩ = some "#DIV/0" ∧
      s.formulaCells.ncard = 2 ∧ s.faultCells.ncard = 1 ∧ s.display.faults = 1 ∧
      ∃ rows, Csv.RowsOf false (Csv.recordsFrom (.delimitedBy 59) .origin
        (Csv.write ⟨.delimitedBy 59, .crlf, .shown⟩ s)) rows ∧
        rows.length = 3 ∧ rows[1]? = some ["", "#DIV/0", "#DIV/0"] := by
  intro s
  rcases displays_agree (s := s) ⟨_, _, _, _, rfl⟩ with
    ⟨-, ⟨-, hspans, hsame⟩, ⟨-, -, hback⟩, ⟨-, hfaults⟩, hformulas', hfaults'⟩
  have hused : s.usedRange? = some ⟨⟨0, 0⟩, ⟨2, 2⟩⟩ := by decide
  have hcounts : s.displayUsed.formulas = 2 ∧ s.displayUsed.faults = 1 := by decide +kernel
  have hshown : s.displayUsed.get? ⟨1, 2⟩ = some "#DIV/0" := by decide +kernel
  have hsecond : s.displayUsed.rows[1]? = some ["", "#DIV/0", "#DIV/0"] := by decide +kernel
  rw [hfaults, ← hformulas', ← hfaults']
  exact ⟨hspans _ hused, hsame _ _ hshown, hcounts.1, hcounts.2, hcounts.2,
    _, hback _ (by decide) .crlf, (hspans _ hused).length, hsecond⟩

end Sheet

end Worksheet
