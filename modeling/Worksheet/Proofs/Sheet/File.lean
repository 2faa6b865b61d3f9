import Worksheet.Proofs.Csv.Mark
import Worksheet.Proofs.File.Directory
import Worksheet.Proofs.Sheet.Content
import Worksheet.Sheet.File

/-!
# Saving and Opening Again

What is left of a sheet that was saved and is opened again.

Saving writes the raw texts and opening reads them with the delimiter that the
same extension stands for, so everything comes down to what written rows are
read as. The sheet is always opened, and it is called like the file. It has
the cells it had, wherever they are and whatever they hold, with one exception.

The exception is a sheet whose first cell begins with the byte order mark, as
it does when its text comes from a file that was exported with one. Unless the
text happens to need quotes, its mark ends up at the front of the file and is
taken for the mark of the file. The first cell loses it, and if it held
nothing else and the sheet has no second column, the first row is lost with it
and every other row moves up.

## Main definitions

* `calledLike`: A sheet under the name of a file.
* `Unmarked`: What is opened of a sheet with a bare mark in front.

## Theorems

* `regular_of_delimiterFor?`: The known layouts are regular.
* `load_eq_ok_iff`: When a sheet is loaded.
* `Valid.of_load`: A sheet that was loaded is valid.
* `openFile_of_saveFile`: Opening a saved file is reading what was written.
* `Valid.unmarked`: What is left of a sheet without its mark.
* `cells_eq_iff_of_saveFile`: A saved sheet is opened, with the cells it had
  exactly when its first text does not begin with a bare mark, and otherwise
  without it.
-/

namespace Worksheet

namespace Sheet

/-- The known layouts are regular. -/
theorem regular_of_delimiterFor? {path : String} {delimiter : UInt8}
    (h : delimiterFor? path = some delimiter) : (Csv.Dialect.delimitedBy delimiter).Regular := by
  unfold delimiterFor? at h
  split at h
  -- The first two extensions stand for the comma, the third for the tab.
  · rw [← Option.some.inj h]
    decide
  · rw [← Option.some.inj h]
    decide
  · rw [← Option.some.inj h]
    decide
  · exact absurd h (by simp only [reduceCtorEq, not_false_eq_true])

/-- A sheet is saved by creating a file with what is written of it. -/
theorem create_of_saveFile {s : Sheet} {d d' : Directory} {path : String}
    (h : s.saveFile d path = .ok d') : ∃ delimiter, delimiterFor? path = some delimiter ∧
      d.create path (Csv.write ⟨.delimitedBy delimiter, .crlf, .raw⟩ s) = .ok d' := by
  rw [saveFile] at h
  rcases hdelimiter : delimiterFor? path with _ | delimiter
  · rw [hdelimiter] at h
    exact absurd h (by simp only [reduceCtorEq, not_false_eq_true])
  · rw [hdelimiter] at h
    exact ⟨delimiter, rfl, Attempt.mapError_eq_ok_iff.mp (Attempt.mapError_eq_ok_iff.mp h)⟩

/-- The sheet called like the file that a path leads to, if it has a name. -/
def calledLike (u : Sheet) (path : String) : Sheet :=
  match (Path.ofString path).stem? with
  | some name => u.rename name
  | none => u

theorem Valid.calledLike {u : Sheet} (hu : u.Valid) (path : String) : (u.calledLike path).Valid := by
  rw [Sheet.calledLike]
  cases (Path.ofString path).stem? with
  | some name => exact hu.rename name
  | none => exact hu

/-- A sheet is loaded when its file can be read and holds it. -/
theorem load_eq_ok_iff {d : Directory} {path : String} {options : Csv.ReadOptions} {s : Sheet} :
    load d path options = .ok s ↔ ∃ bytes u,
      d.read path = .ok bytes ∧ Csv.read options bytes = .ok u ∧ u.calledLike path = s := by
  simp only [load, calledLike, Attempt.bind_eq_ok_iff, Attempt.mapError_eq_ok_iff, exists_and_left]
  cases (Path.ofString path).stem? with
  | some name => simp only [pure, Except.pure, Except.ok.injEq]
  | none => simp only [pure, Except.pure, Except.ok.injEq]

/-- A file that can be read is loaded, and the sheet is called like it. -/
theorem load_of_read {d : Directory} {path : String} {options : Csv.ReadOptions}
    {bytes : List UInt8} {u : Sheet} (hfile : d.read path = .ok bytes)
    (hname : (Path.ofString path).fileName?.isSome = true)
    (hread : Csv.read options bytes = .ok u) :
    ∃ name, (Path.ofString path).stem? = some name ∧ load d path options = .ok (u.rename name) := by
  rcases Option.isSome_iff_exists.mp hname with ⟨fileName, hfileName⟩
  have hstem : (Path.ofString path).stem? = some (Path.splitName fileName).1 := by
    rw [Path.stem?, hfileName, Option.map_some]
  refine ⟨_, hstem, load_eq_ok_iff.mpr ⟨bytes, u, hfile, hread, ?_⟩⟩
  rw [calledLike, hstem]

/-- A sheet that was loaded is valid. -/
theorem Valid.of_load {d : Directory} {path : String} {options : Csv.ReadOptions} {s : Sheet}
    (h : load d path options = .ok s) : s.Valid := by
  rcases load_eq_ok_iff.mp h with ⟨bytes, u, -, hread, rfl⟩
  exact (Valid.of_read hread).calledLike path

/-- Opening a saved file is reading what was written, with the same
    delimiter. -/
theorem openFile_of_saveFile {s u : Sheet} {d d' : Directory} {path : String} {delimiter : UInt8}
    (h : s.saveFile d path = .ok d') (hdelimiter : delimiterFor? path = some delimiter)
    (hread : Csv.read ⟨.delimitedBy delimiter, false⟩
      (Csv.write ⟨.delimitedBy delimiter, .crlf, .raw⟩ s) = .ok u) :
    ∃ name, (Path.ofString path).stem? = some name ∧ openFile d' path = .ok (u.rename name) := by
  rcases create_of_saveFile h with ⟨delimiter', hdelimiter', hcreate⟩
  rw [hdelimiter, Option.some.injEq] at hdelimiter'
  subst hdelimiter'
  rcases Directory.read_of_create hcreate with ⟨hfile, hname⟩
  rcases load_of_read hfile hname hread with ⟨name, hstem, hload⟩
  refine ⟨name, hstem, ?_⟩
  rw [openFile, hdelimiter]
  exact Attempt.mapError_eq_ok_iff.mpr hload

/-- Valid sheets store the same exactly when they show the same. -/
theorem Valid.cells_eq_iff {s t : Sheet} (hs : s.Valid) (ht : t.Valid) :
    s.cells = t.cells ↔ ∀ a, s.text a = t.text a := by
  constructor
  · intro h a
    rw [text, h, text]
  · exact cells_eq_of_text_eq hs.nonempty ht.nonempty

/-- What is opened of a sheet whose first text begins with a bare mark. -/
inductive Unmarked (s t : Sheet) : Prop where
  /-- The mark was all there was in the first row, and every other row has moved
      up. -/
  | moved (hfirst : s.text ⟨0, 0⟩ = "\uFEFF") (hcolumn : ∀ a, s.text a ≠ "" → a.col = 0)
      (htext : ∀ a, t.text a = if a.InLimits then s.text ⟨a.row + 1, a.col⟩ else "") :
      Unmarked s t
  /-- The first text has lost its mark, and no other cell has changed. -/
  | stripped {rest : String} (hfirst : s.text ⟨0, 0⟩ = "\uFEFF" ++ rest)
      (hleft : rest ≠ "" ∨ ∃ a, s.text a ≠ "" ∧ a.col ≠ 0)
      (htext : ∀ a, t.text a = if a = ⟨0, 0⟩ then rest else s.text a) : Unmarked s t

/-- Cells in the first column only make a used range of one column. -/
theorem toNat_last_col_eq_zero {s : Sheet} (hcolumn : ∀ a ∈ s.cells, a.col = 0) {r : Range}
    (h : s.usedRange? = some r) : r.last.col.toNat = 0 := by
  have hhull := isHull_of_usedRange? h
  -- The range that ends in the first column holds all cells, so it holds the last corner.
  have hlast := hhull.least ⟨r.first, ⟨r.last.row, 0⟩⟩ (fun a ha => by
    have hin := (Range.contains_iff r a).mp (hhull.holds a ha)
    rw [Range.contains_iff, hcolumn a ha]
    exact ⟨hin.1, hcolumn a ha ▸ hin.2.1, UInt32.le_refl 0⟩) _ hhull.normal.contains_last
  exact Nat.le_zero.mp (UInt32.le_iff_toNat_le.mp ((Range.contains_iff _ _).mp hlast).2.2)

/-- The raw rows without their mark are the texts without it. -/
theorem Valid.unmarked {s t : Sheet} (hs : s.Valid) (ht : t.Valid)
    (hmark : (s.text ⟨0, 0⟩).toList.head? = some '\uFEFF')
    (htext : ∀ a, t.text a = Csv.textIn (Csv.unmarked (Csv.contentRows .raw s)) a) :
    Unmarked s t := by
  have hraw := hs.textIn_contentRows_raw
  rw [← hraw ⟨0, 0⟩] at hmark
  rcases Csv.exists_shape_of_mark hmark with ⟨cs, more, tail, hcs, hshape, hunmarked⟩
  rw [hraw ⟨0, 0⟩] at hcs hshape
  have hfirst : s.text ⟨0, 0⟩ = "\uFEFF" ++ String.ofList cs := by
    rw [← String.toList_inj, hcs, String.toList_append, String.toList_ofList, String.toList_ofList]
    rfl
  -- All rows are as long as the first one, which is as long as the used range is wide.
  have hwidth : s.usedSize.2.toNat = more.length + 1 := by
    have hmem : (s.text ⟨0, 0⟩ :: more) ∈ Csv.contentRows .raw s := by
      rw [hshape]
      exact List.mem_cons_self
    rw [← length_of_mem_map_rectangle hmem, List.length_cons]
  by_cases hempty : cs = [] ∧ more = []
  · rw [hempty.1] at hfirst
    refine .moved hfirst (fun a ha => ?_) fun a => ?_
    · have hcol := UInt32.lt_iff_toNat_lt.mp (hs.lt_usedSize ha).2
      rw [hwidth, hempty.2, List.length_nil, Nat.lt_one_iff] at hcol
      exact UInt32.toNat_inj.mp hcol
    · by_cases hin : a.InLimits
      · rw [if_pos hin, htext, hunmarked, if_pos hempty, ← hraw, hshape, Csv.textIn, Csv.textIn,
          Word.toNat_succ_of_lt hin.1, List.getElem?_cons_succ]
      · rw [if_neg hin]
        by_contra hne
        exact hin (ht.inLimits ((mem_cells_iff_text t ht.nonempty a).mpr hne))
  · refine .stripped hfirst ?_ fun a => ?_
    · by_cases hrest : cs = []
      · -- There is a second column, so something is in it.
        refine .inr (not_forall_not.mp fun hnone => hempty ⟨hrest, ?_⟩)
        have hcolumn : ∀ a ∈ s.cells, a.col = 0 := fun a ha =>
          not_not.mp fun hcol => hnone a ⟨(mem_cells_iff_text s hs.nonempty a).mp ha, hcol⟩
        rcases hused : s.usedRange? with _ | r
        · rw [usedSize, hused] at hwidth
          exact absurd hwidth (Nat.succ_ne_zero _).symm
        · rw [(hs.toNat_usedSize hused).2, toNat_last_col_eq_zero hcolumn hused] at hwidth
          exact List.length_eq_zero_iff.mp (Nat.succ.inj hwidth).symm
      · refine .inl fun hc => hrest ?_
        rw [← @String.toList_ofList cs, hc, String.toList_empty]
    · rw [htext, hunmarked, if_neg hempty, ← hraw a, hshape]
      exact Csv.textIn_cons_cons _ _ more tail a

/-- What is written of a valid sheet is read, and it is read as the same cells
    unless a bare mark is in front; then they are read without it. -/
theorem Valid.exists_read_write {s : Sheet} (hs : s.Valid) {d : Csv.Dialect} (hd : d.Regular)
    (e : Csv.LineEnd) :
    ∃ u, Csv.read ⟨d, false⟩ (Csv.write ⟨d, e, .raw⟩ s) = .ok u ∧
      (u.cells = s.cells ↔ ¬ Csv.BareMark d (s.text ⟨0, 0⟩)) ∧
      (Csv.BareMark d (s.text ⟨0, 0⟩) → Unmarked s u) := by
  rcases hs.length_contentRows_le .raw with ⟨hrows, hcols⟩
  rcases Csv.exists_read_writeRows hd e hrows hcols with ⟨u, hu, htext, hmarked⟩
  simp only [hs.textIn_contentRows_raw] at htext hmarked
  have huvalid : u.Valid := .of_read hu
  exact ⟨u, hu, (huvalid.cells_eq_iff hs).trans htext,
    fun hmark => hs.unmarked huvalid hmark.1 (hmarked hmark)⟩

/-- A reachable sheet that was saved is opened again under the name of its
    file. It has the cells it had exactly when its first text does not begin
    with a byte order mark that needs no quotes. If it does, the first text
    loses the mark, or all rows move up when there is nothing else in the first
    one. -/
theorem cells_eq_iff_of_saveFile {s : Sheet} (hs : s.Reachable) {d d' : Directory} {path : String}
    (h : s.saveFile d path = .ok d') :
    ∃ delimiter t, delimiterFor? path = some delimiter ∧ openFile d' path = .ok t ∧
      (Path.ofString path).stem? = some t.name ∧
      (t.cells = s.cells ↔ ¬ Csv.BareMark (.delimitedBy delimiter) (s.text ⟨0, 0⟩)) ∧
      (Csv.BareMark (.delimitedBy delimiter) (s.text ⟨0, 0⟩) → Unmarked s t) := by
  rcases create_of_saveFile h with ⟨delimiter, hdelimiter, -⟩
  rcases hs.valid.exists_read_write (regular_of_delimiterFor? hdelimiter) .crlf with
    ⟨u, hread, hcells, hunmarked⟩
  rcases openFile_of_saveFile h hdelimiter hread with ⟨name, hstem, hopen⟩
  refine ⟨delimiter, u.rename name, hdelimiter, hopen, hstem, hcells, fun hmark => ?_⟩
  -- The name is no part of the cells.
  cases hunmarked hmark with
  | moved hfirst hcolumn htext => exact .moved hfirst hcolumn htext
  | stripped hfirst hleft htext => exact .stripped hfirst hleft htext

/-- A formula below and to the right of the first cell, and a text with quotes
    and line ends, in a file with the extension in capitals. -/
theorem cells_eq_of_saveFile_formula :
    let s := (fresh "Plan").run
      [.change (.write ⟨2, 1⟩ "=SUM(A1:A2)"), .change (.write ⟨1, 0⟩ "say \"hi\"\r\n")]
    ∃ d' t, s.saveFile (.flat []) "plan.TSV" = .ok d' ∧ openFile d' "plan.TSV" = .ok t ∧
      t.cells = s.cells := by
  intro s
  have hs : s.Reachable := ⟨_, _, _, _, rfl⟩
  rcases Attempt.exists_of_isOk (show (s.saveFile (.flat []) "plan.TSV").isOk = true by
    decide +kernel) with ⟨d', hsave⟩
  rcases cells_eq_iff_of_saveFile hs hsave with ⟨delimiter, t, -, hopen, -, hcells, -⟩
  refine ⟨d', t, hsave, hopen, hcells.mpr fun hmark => ?_⟩
  exact absurd hmark.1 (by decide)

/-- A mark that is all the first cell holds. The cell below moves up. -/
theorem moved_of_saveFile_mark :
    let s := (fresh "Marked").run
      [.change (.write ⟨0, 0⟩ "\uFEFF"), .change (.write ⟨1, 0⟩ "1")]
    s.Reachable ∧ ∃ d' t, s.saveFile (.flat []) "a.csv" = .ok d' ∧
      openFile d' "a.csv" = .ok t ∧ t.cells ≠ s.cells ∧
      s.text ⟨0, 0⟩ = "\uFEFF" ∧ t.text ⟨0, 0⟩ = "1" ∧
      s.text ⟨1, 0⟩ = "1" ∧ t.text ⟨1, 0⟩ = "" := by
  intro s
  rcases Attempt.exists_of_isOk (show (s.saveFile (.flat []) "a.csv").isOk = true by
    decide +kernel) with ⟨d', hsave⟩
  have hfields : (Csv.records (.delimitedBy Csv.comma)
      (Csv.write ⟨.delimitedBy Csv.comma, .crlf, .raw⟩ s)).map Csv.Record.fields =
        [["1"]].map (List.map Csv.textBytes) := by decide
  rcases Csv.read_of_fields hfields (Csv.fits_of_length_le (by decide) (by decide)) with
    ⟨u, hread, htext⟩
  rcases openFile_of_saveFile hsave (by decide +kernel) hread with ⟨name, -, hopen⟩
  have hfirst : u.text ⟨0, 0⟩ = "1" := htext ⟨0, 0⟩
  refine ⟨⟨_, _, _, _, rfl⟩, d', u.rename name, hsave, hopen, fun hc => ?_, by decide, hfirst,
    by decide, htext ⟨1, 0⟩⟩
  have hsame : u.text ⟨0, 0⟩ = s.text ⟨0, 0⟩ := by
    rw [text, show u.cells = s.cells from hc, text]
  rw [hfirst] at hsame
  exact absurd hsame (by decide)

end Sheet

end Worksheet
