import Worksheet.Proofs.Csv.Mark
import Worksheet.Proofs.Sheet.Display

/-!
# Rendered Files

That a file with shown texts shows the same when it is read.

What a sheet shows is written to a file, and the file is read again. The rows
are read as they were written unless a bare mark is in front, and a mark in
front of what is shown comes from a text that is shown as it is. So the sheet
that is read holds what the first one showed, in the same cells: what is shown
is empty only where there is nothing, and blank rows in between are written as
rows.

None of these texts is a formula, so each of them is shown as it is. Writing
what the second sheet shows is therefore writing the same texts, from the
first cell to the end of the same used range, and gives the same bytes.

## Main definitions

* `Sheet.Shows`: The texts of a sheet are what another one shows.

## Theorems

* `Valid.exists_read_write_shown`: A rendered file is read as what was shown.
* `Shows.usedRange?_eq`: The used range is the same.
* `Shows.contentRows_eq`: What is written is the same, too.
* `Csv.rendered_of_read`: Rendering a rendered file changes nothing.
-/

namespace Worksheet

namespace Sheet

/-- The texts of a sheet are what another one shows. -/
def Shows (s t : Sheet) : Prop :=
  ∀ a, t.text a = s.shownAt a

theorem Valid.textIn_contentRows_shown {s : Sheet} (hs : s.Valid) (a : Address) :
    Csv.textIn (Csv.contentRows .shown s) a = s.shownAt a := by
  rw [shownAt_eq_shown]
  exact hs.textIn_contentRows (fun _ => s.grid.shown_eq_empty_iff.mpr) a

/-- A file with what a sheet shows is read as a sheet with these texts. -/
theorem Valid.exists_read_write_shown {s : Sheet} (hs : s.Valid) {d : Csv.Dialect}
    (hd : d.Regular) (e : Csv.LineEnd) (hmark : (s.text ⟨0, 0⟩).toList.head? ≠ some '\uFEFF') :
    ∃ t, Csv.read ⟨d, false⟩ (Csv.write ⟨d, e, .shown⟩ s) = .ok t ∧ s.Shows t := by
  rcases hs.length_contentRows_le .shown with ⟨hrows, hcols⟩
  rcases Csv.exists_read_writeRows hd e hrows hcols with ⟨t, hread, htext, -⟩
  simp only [hs.textIn_contentRows_shown] at htext
  refine ⟨t, hread, htext.mpr fun hbare => hmark ?_⟩
  -- A mark in front of what is shown was in front of the text.
  have hhead := hbare.1
  rw [shownAt_eq_shown] at hhead
  exact s.grid.head?_of_head?_shown (by decide) (by decide) hhead

variable {s t : Sheet}

theorem Shows.isFormulaText_text (h : s.Shows t) (a : Address) :
    isFormulaText (t.text a) = false := by
  rw [h, shownAt_eq_shown, Grid.isFormulaText_shown]

theorem Shows.shownAt_eq (h : s.Shows t) (a : Address) : t.shownAt a = s.shownAt a := by
  rw [shownAt_eq_shown, t.grid.shown_of_not_formula (h.isFormulaText_text a), h]

/-- The used range is the same, since only empty texts are shown as nothing. -/
theorem Shows.usedRange?_eq (h : s.Shows t) (hs : s.Valid) (ht : t.Valid) :
    t.usedRange? = s.usedRange? := by
  have hmem : ∀ a : Address, a ∈ t.cells ↔ a ∈ s.cells := by
    intro a
    rw [mem_cells_iff_text t ht.nonempty, mem_cells_iff_text s hs.nonempty, h, shownAt_eq_shown,
      ne_eq, s.grid.shown_eq_empty_iff]
  refine Option.ext fun r => ?_
  simp only [usedRange?_eq_some_iff, hmem]

/-- What is written of the two sheets is the same. -/
theorem Shows.contentRows_eq (h : s.Shows t) (hs : s.Valid) (ht : t.Valid) :
    Csv.contentRows .shown t = Csv.contentRows .shown s := by
  have hsize : t.usedSize = s.usedSize := by
    rw [usedSize, h.usedRange?_eq hs ht, usedSize]
  rw [Csv.contentRows, hsize, Csv.contentRows]
  refine List.map_congr_left fun row _ => List.map_congr_left fun a _ => ?_
  rw [Csv.contentAt, Csv.contentAt, ← shownAt_eq_shown, ← shownAt_eq_shown, h.shownAt_eq]

end Sheet

namespace Csv

/-- What a file shows is written to another file. That file can be read, there
    is no formula in it, it is used as far as the first one, and what it shows
    is written as the same bytes. -/
theorem rendered_of_read {delimiter : UInt8} (hd : (Dialect.delimitedBy delimiter).Regular)
    {bytes : List UInt8} {s : Sheet} (h : read ⟨.delimitedBy delimiter, false⟩ bytes = .ok s)
    (hmark : (s.text ⟨0, 0⟩).toList.head? ≠ some '\uFEFF') :
    let out := write ⟨.delimitedBy delimiter, .lf, .shown⟩ s
    ∃ t, read ⟨.delimitedBy delimiter, false⟩ out = .ok t ∧
      (∀ a, isFormulaText (t.text a) = false) ∧ t.usedRange? = s.usedRange? ∧
      write ⟨.delimitedBy delimiter, .lf, .shown⟩ t = out := by
  intro out
  have hs : s.Valid := .of_read h
  rcases hs.exists_read_write_shown hd .lf hmark with ⟨t, hread, hshows⟩
  have ht : t.Valid := .of_read hread
  refine ⟨t, hread, hshows.isFormulaText_text, hshows.usedRange?_eq hs ht, ?_⟩
  rw [write, hshows.contentRows_eq hs ht]
  rfl

/-- A fault, a blank row and a text that needs quotes. -/
theorem rendered_of_read_faults :
    ∃ s t, read ⟨.delimitedBy 59, false⟩ (textBytes "=1/0;k\n\"\"\n;\"a;b\"\n") = .ok s ∧
      s.text ⟨0, 0⟩ = "=1/0" ∧
      read ⟨.delimitedBy 59, false⟩ (write ⟨.delimitedBy 59, .lf, .shown⟩ s) = .ok t ∧
      (∀ a, isFormulaText (t.text a) = false) ∧ t.usedRange? = s.usedRange? ∧
      write ⟨.delimitedBy 59, .lf, .shown⟩ t = write ⟨.delimitedBy 59, .lf, .shown⟩ s := by
  have hfields : (records (.delimitedBy 59) (textBytes "=1/0;k\n\"\"\n;\"a;b\"\n")).map Record.fields =
      [["=1/0", "k"], [""], ["", "a;b"]].map (List.map textBytes) := by decide
  rcases read_of_fields hfields (fits_of_length_le (by decide) (by decide)) with ⟨s, hs, htext⟩
  have hfirst : s.text ⟨0, 0⟩ = "=1/0" := htext ⟨0, 0⟩
  rcases rendered_of_read (by decide) hs (by rw [hfirst]; decide) with ⟨t, hread, ht⟩
  exact ⟨s, t, hs, hfirst, hread, ht⟩

end Csv

end Worksheet
