import Worksheet.Proofs.Attempt
import Worksheet.Proofs.Sheet.Operation
import Worksheet.Proofs.Sheet.UsedRange

/-!
# Valid Sheets

The invariant of sheets, and that no history breaks it.

A sheet could be built that stores the empty text, or a cell outside its
displayed size, or that is larger than the limits. Scans over the size would
then miss cells, and equal sheets could differ in what they store. `Valid`
rules all of this out.

Storing a text within the limits is the only way a cell comes into being, so
the invariant has to be carried over one step, `Valid.store`. Everything that
fills a sheet from outside, the saved form as well as the records of a file,
is a fold of that step over an empty sheet.

## Main definitions

* `Sheet.Valid`: The size is within the limits, the cells are within the size,
  and none of them is empty.

## Theorems

* `Valid.eq_of_text_eq`: Valid sheets are equal when they look the same.
* `Valid.store`, `Valid.clear`, `Valid.resize`: One step preserves validity.
* `Valid.change`, `Valid.perform`: Every operation preserves it.
* `Valid.of_sheet`, `Valid.of_read`: Sheets from outside are valid.
* `Valid.runChanges`, `Valid.run`: It holds after every history.
* `Valid.usedRange?_lt`: The used range of a valid sheet is within its size.
* `run_valid`: Every reachable sheet is valid and so is its used range.
-/

namespace Worksheet

namespace Sheet

/-- The invariant of sheets. -/
structure Valid (s : Sheet) : Prop where
  /-- The rows are within the limit. -/
  rows_le : s.rows ≤ maxRows
  /-- The columns are within the limit. -/
  cols_le : s.cols ≤ maxCols
  /-- Every stored cell is within the displayed size. -/
  inside : ∀ a : Address, a ∈ s.cells → a.row < s.rows ∧ a.col < s.cols
  /-- No stored text is empty. -/
  nonempty : ∀ a : Address, s.cells[a]? ≠ some ""

/-- The cells of a valid sheet are within the limits. -/
theorem Valid.inLimits {s : Sheet} (hs : s.Valid) {a : Address} (ha : a ∈ s.cells) : a.InLimits := by
  rcases hs.inside a ha with ⟨hrow, hcol⟩
  exact ⟨UInt32.lt_of_lt_of_le hrow hs.rows_le, UInt32.lt_of_lt_of_le hcol hs.cols_le⟩

/-- Valid sheets are equal when they look the same. -/
theorem Valid.eq_of_text_eq {s t : Sheet} (hs : s.Valid) (ht : t.Valid) (hname : s.name = t.name)
    (hrows : s.rows = t.rows) (hcols : s.cols = t.cols) (htext : ∀ a, s.text a = t.text a) :
    s = t := by
  have hcells := cells_eq_of_text_eq hs.nonempty ht.nonempty htext
  cases s
  cases t
  cases hname
  cases hrows
  cases hcols
  cases hcells
  rfl

/-- An empty sheet is valid whatever its size. -/
theorem valid_empty (name : String) (rows cols : UInt32) : (empty name rows cols).Valid where
  rows_le := by
    simp only [empty, UInt32.le_iff_toNat_le, UInt32.toNat_min]
    exact Nat.min_le_right _ _
  cols_le := by
    simp only [empty, UInt32.le_iff_toNat_le, UInt32.toNat_min]
    exact Nat.min_le_right _ _
  inside := fun a ha => absurd ha Std.ExtTreeMap.not_mem_empty
  nonempty := by
    intro a
    simp only [empty, Std.ExtTreeMap.getElem?_empty, ne_eq, reduceCtorEq, not_false_eq_true]

theorem Valid.rename {s : Sheet} (hs : s.Valid) (name : String) : (s.rename name).Valid :=
  ⟨hs.rows_le, hs.cols_le, hs.inside, hs.nonempty⟩

/-- Clearing a cell keeps the invariant. -/
theorem Valid.clear {s : Sheet} (hs : s.Valid) (a : Address) : (s.clear a).Valid where
  rows_le := hs.rows_le
  cols_le := hs.cols_le
  inside := fun b hb => hs.inside b (Std.ExtTreeMap.mem_of_mem_erase hb)
  nonempty := by
    intro b
    rw [cells_clear]
    by_cases h : a = b
    · simp only [if_pos h, ne_eq, reduceCtorEq, not_false_eq_true]
    · rw [if_neg h]
      exact hs.nonempty b

/-- Storing a text keeps the invariant, as the size grows with it. -/
theorem Valid.store {s : Sheet} (hs : s.Valid) {a : Address} (ha : a.InLimits) (t : String) :
    (s.store a t).Valid := by
  by_cases ht : t = ""
  · rw [ht, store_empty]
    exact hs.clear a
  · have hrows := rows_store s ha t
    have hcols := cols_store s ha t
    rw [if_neg ht] at hrows hcols
    have hrow := UInt32.lt_iff_toNat_lt.mp ha.1
    have hcol := UInt32.lt_iff_toNat_lt.mp ha.2
    have hle := UInt32.le_iff_toNat_le.mp hs.rows_le
    have hle' := UInt32.le_iff_toNat_le.mp hs.cols_le
    refine ⟨UInt32.le_iff_toNat_le.mpr (by omega), UInt32.le_iff_toNat_le.mpr (by omega), ?_, ?_⟩
    · -- The new cell is what the size grew for; the others were inside before.
      intro b hb
      rw [UInt32.lt_iff_toNat_lt, UInt32.lt_iff_toNat_lt]
      by_cases hab : a = b
      · subst hab
        omega
      · have hold : b ∈ s.cells := by
          rw [Std.ExtTreeMap.mem_iff_isSome_getElem?, cells_store, if_neg hab] at hb
          exact Std.ExtTreeMap.mem_iff_isSome_getElem?.mpr hb
        have hin := hs.inside b hold
        rw [UInt32.lt_iff_toNat_lt, UInt32.lt_iff_toNat_lt] at hin
        omega
    · intro b
      rw [cells_store]
      by_cases hab : a = b
      · rw [if_pos hab, if_neg ht]
        exact fun hc => ht (Option.some.inj hc)
      · rw [if_neg hab]
        exact hs.nonempty b

/-- A new size keeps the invariant, as the cells outside are dropped. -/
theorem Valid.resize {s : Sheet} (hs : s.Valid) (rows cols : UInt32) :
    (s.resize rows cols).Valid where
  rows_le := (valid_empty s.name rows cols).rows_le
  cols_le := (valid_empty s.name rows cols).cols_le
  inside := by
    intro b hb
    rw [Std.ExtTreeMap.mem_iff_isSome_getElem?, cells_resize] at hb
    by_cases h : b.row < min rows maxRows ∧ b.col < min cols maxCols
    · exact h
    · rw [if_neg h] at hb
      exact absurd hb (by simp only [Option.isSome_none, Bool.false_eq_true, not_false_eq_true])
  nonempty := by
    intro b
    rw [cells_resize]
    by_cases h : b.row < min rows maxRows ∧ b.col < min cols maxCols
    · rw [if_pos h]
      exact hs.nonempty b
    · simp only [if_neg h, ne_eq, reduceCtorEq, not_false_eq_true]

/-- A write that succeeds keeps the invariant. -/
theorem Valid.write {s s' : Sheet} (hs : s.Valid) {a : Address} {t : String}
    (h : s.write a t = .ok s') : s'.Valid := by
  rcases (write_eq_ok_iff s s' a t).mp h with ⟨ha, rfl⟩
  exact hs.store ha t

theorem Valid.writeA1 {s s' : Sheet} (hs : s.Valid) {address t : String}
    (h : s.writeA1 address t = .ok s') : s'.Valid := by
  rcases Attempt.bind_eq_ok_iff.mp h with ⟨a, -, hwrite⟩
  exact hs.write (Attempt.mapError_eq_ok_iff.mp hwrite)

/-- Every change preserves validity. -/
theorem Valid.change {s s' : Sheet} (hs : s.Valid) {c : Change} (h : s.change c = .ok s') :
    s'.Valid := by
  cases c with
  | fresh name =>
      cases h
      exact valid_empty name defaultRows defaultCols
  | empty name rows cols =>
      cases h
      exact valid_empty name rows cols
  | rename name =>
      cases h
      exact hs.rename name
  | write a t => exact hs.write (Attempt.mapError_eq_ok_iff.mp h)
  | writeA1 address t => exact hs.writeA1 h
  | clear a =>
      cases h
      exact hs.clear a
  | clearA1 address =>
      rcases Attempt.map_eq_ok_iff.mp h with ⟨a, -, rfl⟩
      exact hs.clear a
  | resize rows cols =>
      cases h
      exact hs.resize rows cols

/-- A saved form is written cell by cell into an empty sheet. -/
theorem Valid.of_sheet {saved : Saved} {s : Sheet} (h : saved.sheet = .ok s) : s.Valid :=
  Attempt.foldlM_preserves (P := Valid) (fun _ _ _ hs hstep => hs.writeA1 hstep) _ _ _
    (valid_empty saved.name saved.rows saved.cols) h

theorem Valid.storeField {row : UInt32} {s s' : Sheet} {field : String × Nat} (hs : s.Valid)
    (h : Csv.storeField row s field = .ok s') : s'.Valid := by
  rw [Csv.storeField] at h
  by_cases hempty : field.1.isEmpty = true
  · rw [if_pos hempty, Except.ok.injEq] at h
    exact h ▸ hs
  · rw [if_neg hempty] at h
    exact hs.write (Attempt.mapError_eq_ok_iff.mp h)

/-- A record read into a sheet keeps the invariant, by induction on the
    fields. -/
theorem Valid.addRecord {trim : Bool} {s s' : Sheet} {record : Csv.Record × Nat} (hs : s.Valid)
    (h : Csv.addRecord trim s record = .ok s') : s'.Valid := by
  rcases Attempt.bind_eq_ok_iff.mp h with ⟨texts, -, hstore⟩
  exact Attempt.foldlM_preserves (P := Valid) (fun _ _ _ hs hstep => hs.storeField hstep) _ _ _
    hs hstore

/-- The records of a file are stored field by field in an empty sheet. -/
theorem Valid.of_read {options : Csv.ReadOptions} {bytes : List UInt8} {s : Sheet}
    (h : Csv.read options bytes = .ok s) : s.Valid :=
  Attempt.foldlM_preserves (P := Valid) (fun _ _ _ hs hstep => hs.addRecord hstep) _ _ _
    (valid_empty defaultName defaultRows defaultCols) h

/-- One operation keeps the invariant. -/
theorem Valid.perform {s s' : Sheet} (hs : s.Valid) {o : Operation} (h : s.perform o = .ok s') :
    s'.Valid := by
  cases o with
  | change c => exact hs.change (Attempt.mapError_eq_ok_iff.mp h)
  | restore saved => exact of_sheet (Attempt.mapError_eq_ok_iff.mp h)
  | read options bytes => exact of_read (Attempt.mapError_eq_ok_iff.mp h)

/-- What fails leaves the sheet as it was, so only successes have to keep it. -/
theorem Valid.settle {ε : Type} {s : Sheet} (hs : s.Valid) {r : Except ε Sheet}
    (h : ∀ s', r = .ok s' → s'.Valid) : (s.settle r).Valid := by
  -- An attempt that fails leaves the sheet as it was.
  rcases r with e | s'
  · exact hs
  · exact h s' rfl

/-- A run of changes keeps the invariant, by induction on the changes. -/
theorem Valid.runChanges {s : Sheet} (hs : s.Valid) (changes : List Change) :
    (s.runChanges changes).Valid := by
  induction changes generalizing s with
  | nil => exact hs
  | cons c changes ih => exact ih (hs.settle fun _ h => hs.change h)

/-- A run of operations keeps the invariant, by induction on the operations. -/
theorem Valid.run {s : Sheet} (hs : s.Valid) (operations : List Operation) :
    (s.run operations).Valid := by
  -- Each operation is settled before the next, so the invariant is handed on.
  induction operations generalizing s with
  | nil => exact hs
  | cons o operations ih => exact ih (hs.settle fun _ h => hs.perform h)

/-- Every reachable sheet is valid. -/
theorem Reachable.valid {s : Sheet} (hs : s.Reachable) : s.Valid := by
  rcases hs with ⟨name, rows, cols, operations, rfl⟩
  exact (valid_empty name rows cols).run operations

/-- The used range of a valid sheet is within its size. -/
theorem Valid.usedRange?_lt {s : Sheet} (hs : s.Valid) {r : Range} (h : s.usedRange? = some r) :
    r.Normal ∧ r.last.row < s.rows ∧ r.last.col < s.cols := by
  have hull := isHull_of_usedRange? h
  rcases hull.nonempty with ⟨a, ha⟩
  -- A stored cell keeps the size from being nothing, so counting back does not wrap.
  have hrows : 0 < s.rows := UInt32.lt_of_le_of_lt (UInt32.zero_le) (hs.inside a ha).1
  have hcols : 0 < s.cols := UInt32.lt_of_le_of_lt (UInt32.zero_le) (hs.inside a ha).2
  -- The whole size is a range that holds every stored cell, so it holds their hull.
  have hsize : ∀ b ∈ {b | b ∈ s.cells},
      (Range.mk ⟨0, 0⟩ ⟨s.rows - 1, s.cols - 1⟩).contains b = true := by
    intro b hb
    have hin := hs.inside b hb
    rw [Range.contains_iff]
    exact ⟨⟨UInt32.zero_le, (Word.le_pred_iff_lt hrows).mpr hin.1⟩,
      UInt32.zero_le, (Word.le_pred_iff_lt hcols).mpr hin.2⟩
  have hlast := (Range.contains_iff _ _).mp
    (hull.least _ hsize r.last hull.normal.contains_last)
  exact ⟨hull.normal, (Word.le_pred_iff_lt hrows).mp hlast.1.2,
    (Word.le_pred_iff_lt hcols).mp hlast.2.2⟩

/-- Whatever happens to a new sheet, it stays valid, and its used range is a
    range in order that lies within its size. -/
theorem run_valid (name : String) (rows cols : UInt32) (operations : List Operation) :
    let s := (empty name rows cols).run operations
    s.Valid ∧ ∀ r, s.usedRange? = some r →
      r.Normal ∧ ∀ a, r.contains a = true → a.row < s.rows ∧ a.col < s.cols := by
  intro s
  have hs : s.Valid := (valid_empty name rows cols).run operations
  refine ⟨hs, fun r h => ?_⟩
  rcases hs.usedRange?_lt h with ⟨hnormal, hrow, hcol⟩
  refine ⟨hnormal, fun a ha => ?_⟩
  have hin := (Range.contains_iff r a).mp ha
  exact ⟨UInt32.lt_of_le_of_lt hin.1.2 hrow, UInt32.lt_of_le_of_lt hin.2.2 hcol⟩

/-- A sheet that grew for one cell, after a write beyond the limits that failed
    and the emptying of a cell that was empty. -/
theorem run_valid_grown :
    let s := (empty "Small" 2 2).run
      [.change (.write ⟨4, 9⟩ "5"), .change (.write ⟨1048576, 0⟩ "x"), .change (.clearA1 "b1")]
    s.usedRange? = some (.single ⟨4, 9⟩) ∧ (Range.single ⟨4, 9⟩).Normal ∧
      ∀ a, (Range.single ⟨4, 9⟩).contains a = true → a.row < s.rows ∧ a.col < s.cols :=
  ⟨by decide, (run_valid "Small" 2 2 _).2 _ (by decide)⟩

end Sheet

end Worksheet
