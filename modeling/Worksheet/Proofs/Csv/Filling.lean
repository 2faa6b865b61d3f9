import Worksheet.Csv.Reader
import Worksheet.Proofs.Csv.Scanner
import Worksheet.Proofs.Sheet.Writes

/-!
# Filling Sheets from Rows

Reading rows of texts is writing them into a fresh sheet.

The reader stores a record once all of its fields are texts, and it passes
over empty fields. When every field is a text nothing can go wrong but a
write, so the whole reading is a list of writes: those of the texts that are
not empty, each at the place of its row and its own place in it.

Rows can be longer, and there can be more of them, than words can count, as
long as only empty texts stand out there. Such places wrap around to others,
and it is because nothing is written for them that no harm comes of it.

## Main definitions

* `textIn`: The text at an address in some rows.
* `Fits`: The texts that are not empty are within the limits.
* `rowWrites`, `tableWrites`: The writes that put rows of texts in place.

## Theorems

* `textIn_cons_cons`: Rows that differ in their first text only.
* `storeRecord_eq_writeAll`, `read_eq_writeAll`: Reading is writing.
* `text_storeAll_tableWrites`: The text of a cell when the rows are in place.
* `read_of_fields`: The sheet that bytes with known fields hold.
-/

namespace Worksheet

namespace Csv

/-- The text at an address in some rows, empty where there is none. -/
def textIn (rows : List (List String)) (a : Address) : String :=
  ((rows[a.row.toNat]?.getD [])[a.col.toNat]?).getD ""

/-- Another first text changes nothing anywhere else. -/
theorem textIn_cons_cons (t u : String) (more : List String) (tail : List (List String))
    (a : Address) : textIn ((u :: more) :: tail) a =
      if a = ⟨0, 0⟩ then u else textIn ((t :: more) :: tail) a := by
  rcases a with ⟨row, col⟩
  by_cases hrow : row = 0
  · subst hrow
    by_cases hcol : col = 0
    · subst hcol
      rfl
    · have hpos : col.toNat ≠ 0 := fun h => hcol (UInt32.toNat_inj.mp h)
      rcases Nat.exists_eq_succ_of_ne_zero hpos with ⟨j, hj⟩
      rw [if_neg fun h => hcol (Address.mk.inj h).2, textIn, textIn, hj]
      rfl
  · have hpos : row.toNat ≠ 0 := fun h => hrow (UInt32.toNat_inj.mp h)
    rcases Nat.exists_eq_succ_of_ne_zero hpos with ⟨i, hi⟩
    rw [if_neg fun h => hrow (Address.mk.inj h).1, textIn, textIn, hi]
    rfl

/-- Every text that is not empty is within the limits. -/
def Fits (rows : List (List String)) : Prop :=
  ∀ (i j : Nat) (row : List String) (t : String), rows[i]? = some row → row[j]? = some t → t ≠ "" →
    i < maxRows.toNat ∧ j < maxCols.toNat

/-- The writes for some texts of a row, each with its place in it. -/
def fieldWrites (row : UInt32) (fields : List (String × Nat)) : List (Address × String) :=
  (fields.filter fun field => !field.1.isEmpty).map fun field =>
    (⟨row, UInt32.ofNat field.2⟩, field.1)

/-- The writes that put rows of texts in place, each row with its place. -/
def rowWrites (rows : List (List String × Nat)) : List (Address × String) :=
  rows.flatMap fun row => fieldWrites (UInt32.ofNat row.2) row.1.zipIdx

/-- The writes that put rows of texts in place, from the first cell on. -/
def tableWrites (rows : List (List String)) : List (Address × String) :=
  rowWrites rows.zipIdx

theorem fieldWrites_cons_of_empty (row : UInt32) {field : String × Nat}
    (h : field.1.isEmpty = true) (fields : List (String × Nat)) :
    fieldWrites row (field :: fields) = fieldWrites row fields := by
  rw [fieldWrites, List.filter_cons_of_neg (by rw [h]; exact Bool.false_ne_true), fieldWrites]

theorem fieldWrites_cons_of_nonempty (row : UInt32) {field : String × Nat}
    (h : ¬ field.1.isEmpty = true) (fields : List (String × Nat)) :
    fieldWrites row (field :: fields) =
      (⟨row, UInt32.ofNat field.2⟩, field.1) :: fieldWrites row fields := by
  rw [fieldWrites, List.filter_cons_of_pos (by rw [Bool.not_eq_true] at h; rw [h]; rfl),
    List.map_cons, fieldWrites]

/-- Storing texts side by side is writing those that are not empty. -/
theorem foldlM_storeField (row : UInt32) (fields : List (String × Nat)) : ∀ s : Sheet,
    fields.foldlM (storeField row) s =
      (s.writeAll (fieldWrites row fields)).mapError .outOfBounds := by
  induction fields with
  | nil => intro s; rfl
  | cons field fields ih =>
      intro s
      rw [List.foldlM_cons, storeField]
      by_cases hempty : field.1.isEmpty = true
      · rw [if_pos hempty, fieldWrites_cons_of_empty row hempty]
        exact ih s
      · -- The error is wrapped field by field on one side and at the end on the other.
        rw [if_neg hempty, fieldWrites_cons_of_nonempty row hempty, Sheet.writeAll_cons,
          Attempt.mapError_bind]
        exact bind_congr ih

theorem fieldText_textBytes (t : String) : fieldText false (textBytes t) = .ok t := by
  rw [fieldText, fieldBytes, if_neg Bool.false_ne_true, textBytes]
  simp only [Utf8.decode?_encode, if_neg Bool.false_ne_true, String.ofList_toList]

/-- The fields of a record that were made of texts are turned back into them. -/
theorem recordTexts_of_fields {texts : List String} {r : Record}
    (h : r.fields = texts.map textBytes) (record : Nat) :
    recordTexts false record r = .ok texts := by
  rw [recordTexts, h, List.zipIdx_map, List.mapM_map]
  simp only [Function.comp_def, Prod.map_fst, fieldText_textBytes, Attempt.mapError_ok]
  have hpure : texts.zipIdx.mapM (fun field => (pure field.1 : Except Error String)) =
      pure (texts.zipIdx.map Prod.fst) := List.mapM_pure
  rw [List.zipIdx_map_fst] at hpure
  exact hpure

/-- Records whose fields are texts are stored by writing. -/
theorem foldlM_addRecord {trim : Bool} {rs : List Record} {rows : List (List String)}
    (h : List.Forall₂ (fun r row => ∀ record, recordTexts trim record r = .ok row) rs rows) :
    ∀ (k : Nat) (s : Sheet), (rs.zipIdx k).foldlM (addRecord trim) s =
      (s.writeAll (rowWrites (rows.zipIdx k))).mapError .outOfBounds := by
  -- The number of the first record is left open, since it grows along the list.
  induction h with
  | nil => exact fun k s => rfl
  | @cons r row rs rows hr _ ih =>
      intro k s
      have hrecord : addRecord trim s (r, k) =
          (s.writeAll (fieldWrites (UInt32.ofNat k) row.zipIdx)).mapError .outOfBounds := by
        rw [addRecord, hr]
        exact foldlM_storeField _ _ s
      rw [List.zipIdx_cons, List.zipIdx_cons, List.foldlM_cons, hrecord, rowWrites,
        List.flatMap_cons, Sheet.writeAll_append, Attempt.mapError_bind]
      exact bind_congr fun s' => ih (k + 1) s'

/-- Reading bytes whose fields are texts is writing the texts. -/
theorem read_eq_writeAll {d : Dialect} {bytes : List UInt8} {rows : List (List String)}
    (h : (records d bytes).map Record.fields = rows.map (List.map textBytes)) :
    read ⟨d, false⟩ bytes =
      ((Sheet.fresh Sheet.defaultName).writeAll (tableWrites rows)).mapError .outOfBounds := by
  rw [← List.forall₂_eq_eq_eq, List.forall₂_map_left_iff, List.forall₂_map_right_iff] at h
  exact foldlM_addRecord (h.imp fun r row hr => recordTexts_of_fields hr) 0 _

/-- The writes for some rows are their texts, except for the empty ones. -/
theorem mem_tableWrites_iff {rows : List (List String)} {w : Address × String} :
    w ∈ tableWrites rows ↔ ∃ i j row, rows[i]? = some row ∧ row[j]? = some w.2 ∧ w.2 ≠ "" ∧
      w.1 = ⟨UInt32.ofNat i, UInt32.ofNat j⟩ := by
  simp only [tableWrites, rowWrites, fieldWrites, List.mem_flatMap, List.mem_map, List.mem_filter,
    List.mem_zipIdx_iff_getElem?]
  constructor
  · rintro ⟨⟨row, i⟩, hrow, ⟨t, j⟩, ⟨ht, hne⟩, rfl⟩
    refine ⟨i, j, row, hrow, ht, fun hc => ?_, rfl⟩
    rw [show t = "" from hc] at hne
    exact Bool.false_ne_true hne
  · rintro ⟨i, j, row, hrow, ht, hne, ha⟩
    refine ⟨(row, i), hrow, (w.2, j), ⟨ht, ?_⟩, Prod.ext ha.symm rfl⟩
    rw [Bool.not_eq_true', Bool.eq_false_iff]
    exact fun hc => hne (String.isEmpty_iff.mp hc)

/-- Within the limits a word counts as its number, so the rows hold what is
    written where it is written. -/
theorem textIn_of_mem_tableWrites {rows : List (List String)} (hfits : Fits rows)
    {w : Address × String} (hw : w ∈ tableWrites rows) :
    w.1.InLimits ∧ textIn rows w.1 = w.2 := by
  rcases mem_tableWrites_iff.mp hw with ⟨i, j, row, hrow, ht, hne, ha⟩
  rcases hfits i j row w.2 hrow ht hne with ⟨hi, hj⟩
  have hrowNat := Word.toNat_ofNat_of_lt hi
  have hcolNat := Word.toNat_ofNat_of_lt hj
  rw [ha]
  refine ⟨⟨?_, ?_⟩, ?_⟩
  · rw [UInt32.lt_iff_toNat_lt, hrowNat]
    exact hi
  · rw [UInt32.lt_iff_toNat_lt, hcolNat]
    exact hj
  · rw [textIn, hrowNat, hcolNat, hrow, Option.getD_some, ht, Option.getD_some]

/-- Where something stands in the rows, something is written. -/
theorem exists_mem_tableWrites {rows : List (List String)} {a : Address}
    (h : textIn rows a ≠ "") : ∃ w ∈ tableWrites rows, w.1 = a := by
  rcases hrow : rows[a.row.toNat]? with _ | row
  · exact absurd (by rw [textIn, hrow]; rfl) h
  · rcases ht : row[a.col.toNat]? with _ | t
    · exact absurd (by rw [textIn, hrow, Option.getD_some, ht, Option.getD_none]) h
    · have htext : textIn rows a = t := by
        rw [textIn, hrow, Option.getD_some, ht, Option.getD_some]
      refine ⟨(a, t), mem_tableWrites_iff.mpr ⟨_, _, row, hrow, ht, htext ▸ h, ?_⟩, rfl⟩
      rw [UInt32.ofNat_toNat, UInt32.ofNat_toNat]

/-- Once the rows are in place every cell holds what the rows hold. -/
theorem text_storeAll_tableWrites {rows : List (List String)} (hfits : Fits rows) {s : Sheet}
    (hs : ∀ a, s.text a = "") (a : Address) :
    (s.storeAll (tableWrites rows)).text a = textIn rows a := by
  by_cases hempty : textIn rows a = ""
  · -- A write for this cell would carry the empty text, and those are left out.
    have hne : ∀ w ∈ tableWrites rows, w.1 ≠ a := by
      intro w hw ha
      rcases mem_tableWrites_iff.mp hw with ⟨_, _, _, _, _, hw2, _⟩
      exact hw2 ((textIn_of_mem_tableWrites hfits hw).2.symm.trans (ha ▸ hempty))
    rw [Sheet.text_storeAll_of_forall_ne _ hne, hs a, hempty]
  · -- There is a write for this cell, and all of them carry what the rows hold here.
    refine Sheet.text_storeAll_of_agree _ (exists_mem_tableWrites hempty) (fun w hw ha => ?_) s
    rw [← ha]
    exact (textIn_of_mem_tableWrites hfits hw).2.symm

/-- Bytes whose fields are texts within the limits are read, and the sheet
    holds the texts at their places and nothing else. -/
theorem read_of_fields {d : Dialect} {bytes : List UInt8} {rows : List (List String)}
    (h : (records d bytes).map Record.fields = rows.map (List.map textBytes))
    (hfits : Fits rows) :
    ∃ s, read ⟨d, false⟩ bytes = .ok s ∧ ∀ a, s.text a = textIn rows a := by
  refine ⟨(Sheet.fresh Sheet.defaultName).storeAll (tableWrites rows), ?_, fun a =>
    text_storeAll_tableWrites hfits (Sheet.text_empty _ _ _) a⟩
  rw [read_eq_writeAll h, Sheet.writeAll_of_inLimits _ fun w hw =>
    (textIn_of_mem_tableWrites hfits hw).1]
  rfl

end Csv

end Worksheet
