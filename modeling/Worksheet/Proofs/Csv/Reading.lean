import Worksheet.Proofs.Csv.Field
import Worksheet.Proofs.Csv.Filling
import Worksheet.Proofs.Sheet.Validity

/-!
# Reading Any Bytes

What bytes are read as, and with which error they are not.

The records of some bytes are dealt with one after the other. All fields of a
record are turned into texts before any of them is stored, and what is wrong
with a record does not depend on what was stored before it. So reading fails
with the first record that has something wrong, and in there with the first
field that is no text or, when all of them are texts, with the first one that
holds something and lies beyond the limits. Fields that hold nothing are never
wrong, wherever they are.

When nothing is wrong each cell holds the text of its field, and the sheet is
as large as a fresh one or as the texts need. Places are counted in words, and
they are what they seem to be as long as words can count them.

## Main definitions

* `TextAt`: The text at a place of some records.
* `RecordFault`: What is wrong with a record.
* `Filled`: What is expected of a sheet that is read.
* `RowsOf`: The rows that some records are made of.

## Theorems

* `addRecord_eq_error_iff`: A record is not stored exactly when something is
  wrong with it.
* `rowsOf_writeRows`: Written rows are read back.
* `RowsOf.filled`: The rows of some records fill a sheet as expected.
* `exists_read_iff`, `filled_of_read`, `read_eq_error_iff`: Which bytes are
  read, as what, and why others are not.
* `read_outcome`: All of it.
-/

namespace Worksheet

namespace Csv

/-- The field at a place of some records is a text, and this is what is made of
    it. -/
def TextAt (trim : Bool) (rs : List Record) (i j : Nat) (t : String) : Prop :=
  ∃ r bytes, rs[i]? = some r ∧ r.fields[j]? = some bytes ∧ FieldText trim bytes t

/-- Words can count the records, and the fields of each. -/
def Counted (rs : List Record) : Prop :=
  rs.length < UInt32.size ∧ ∀ r ∈ rs, r.fields.length < UInt32.size

/-- A place that a sheet has. -/
def IsPlace (i j : Nat) : Prop :=
  i < maxRows.toNat ∧ j < maxCols.toNat

/-- What is reported of a place that no sheet has. -/
def outside (i j : Nat) : OutOfBounds :=
  if maxRows.toNat ≤ i then .row (UInt64.ofNat i) else .column (UInt64.ofNat j)

/-- What is wrong with a record at a place. -/
inductive RecordFault (trim : Bool) (i : Nat) (r : Record) : Error → Prop where
  /-- A field is no text, and those in front of it are. -/
  | notText {j : Nat} {bytes : List UInt8} (hfield : r.fields[j]? = some bytes)
      (hbytes : ¬ Utf8.IsText bytes)
      (hbefore : ∀ j' < j, ∀ bytes', r.fields[j']? = some bytes' → Utf8.IsText bytes') :
      RecordFault trim i r
        (.notText i r.start j (Utf8.validLength (fieldBytes trim bytes)))
  /-- All fields are texts, and one of them has a text for a place that no sheet
      has, while those in front of it have not. -/
  | outOfBounds {j : Nat} {bytes : List UInt8} {t : String}
      (htexts : ∀ bytes' ∈ r.fields, Utf8.IsText bytes') (hfield : r.fields[j]? = some bytes)
      (htext : FieldText trim bytes t) (hne : t ≠ "") (hout : ¬ IsPlace i j)
      (hbefore : ∀ j' < j, ∀ bytes' t', r.fields[j']? = some bytes' → FieldText trim bytes' t' →
        t' ≠ "" → IsPlace i j') :
      RecordFault trim i r (.outOfBounds (outside i j))

/-- What is expected of the sheet that some records are read as. -/
structure Filled (trim : Bool) (rs : List Record) (s : Sheet) : Prop where
  /-- It has the name of a sheet that was given none. -/
  name : s.name = Sheet.defaultName
  /-- A cell holds the text at its place, unless it is empty. -/
  cells : ∀ (a : Address) (t : String),
    s.cells[a]? = some t ↔ t ≠ "" ∧ TextAt trim rs a.row.toNat a.col.toNat t
  /-- There are as many rows as in a fresh sheet, or as the last record with a
      text that is not empty needs. -/
  rows : IsGreatest
    (insert 30 {n | ∃ i j t, TextAt trim rs i j t ∧ t ≠ "" ∧ n = i + 1}) s.rows.toNat
  /-- There are as many columns as in a fresh sheet, or as the last field with a
      text that is not empty needs. -/
  cols : IsGreatest
    (insert 12 {n | ∃ i j t, TextAt trim rs i j t ∧ t ≠ "" ∧ n = j + 1}) s.cols.toNat

/-- A field is one text only. -/
theorem FieldText.unique {trim : Bool} {bytes : List UInt8} {t u : String}
    (ht : FieldText trim bytes t) (hu : FieldText trim bytes u) : t = u := by
  rw [← fieldText_eq_ok_iff] at ht hu
  exact Except.ok.inj (ht.symm.trans hu)

/-- The texts of a record stand at the places of its fields. -/
theorem getElem?_texts_iff {trim : Bool} {fields : List (List UInt8)} {texts : List String}
    (h : List.Forall₂ (FieldText trim) fields texts) {j : Nat} {t : String} :
    texts[j]? = some t ↔ ∃ bytes, fields[j]? = some bytes ∧ FieldText trim bytes t := by
  rcases Attempt.getElem?_of_forall₂ h j with ⟨hfield, htext⟩ | ⟨bytes, u, hfield, htext, hu⟩
  · simp only [hfield, htext, reduceCtorEq, false_and, exists_false]
  · simp only [hfield, htext, Option.some.injEq, exists_eq_left']
    exact ⟨fun h => h ▸ hu, hu.unique⟩

/-- Words that can count a place tell where it is. -/
theorem inLimits_ofNat_iff {i j : Nat} (hi : i < UInt32.size) (hj : j < UInt32.size) :
    Address.InLimits ⟨UInt32.ofNat i, UInt32.ofNat j⟩ ↔ IsPlace i j := by
  rw [Address.InLimits, UInt32.lt_iff_toNat_lt, UInt32.lt_iff_toNat_lt, IsPlace]
  simp only [UInt32.toNat_ofNat_of_lt' hi, UInt32.toNat_ofNat_of_lt' hj]

theorem toUInt64_ofNat {n : Nat} (h : n < UInt32.size) :
    (UInt32.ofNat n).toUInt64 = UInt64.ofNat n := by
  have hlt : n < UInt64.size := lt_trans h (by decide)
  rw [← UInt64.toNat_inj, UInt32.toNat_toUInt64, UInt32.toNat_ofNat_of_lt' h,
    UInt64.toNat_ofNat_of_lt' hlt]

/-- What is wrong with a text at a place of a record. -/
def FieldFault (i : Nat) (field : String × Nat) (e : Error) : Prop :=
  field.1 ≠ "" ∧ ¬ IsPlace i field.2 ∧ e = .outOfBounds (outside i field.2)

theorem forall_not_fieldFault_iff {i : Nat} {field : String × Nat} :
    (∀ e, ¬ FieldFault i field e) ↔ (field.1 ≠ "" → IsPlace i field.2) := by
  constructor
  · intro h hne
    by_contra hplace
    exact h _ ⟨hne, hplace, rfl⟩
  · rintro h e ⟨hne, hplace, -⟩
    exact hplace (h hne)

/-- A field is not stored exactly when something is wrong with it. -/
theorem storeField_eq_error_iff {i : Nat} {field : String × Nat} (hi : i < UInt32.size)
    (hj : field.2 < UInt32.size) (s : Sheet) (e : Error) :
    storeField (UInt32.ofNat i) s field = .error e ↔ FieldFault i field e := by
  have hrow : maxRows ≤ UInt32.ofNat i ↔ maxRows.toNat ≤ i := by
    rw [UInt32.le_iff_toNat_le, UInt32.toNat_ofNat_of_lt' hi]
  rw [storeField, FieldFault, ne_eq, ← String.isEmpty_iff]
  by_cases hempty : field.1.isEmpty = true
  · rw [if_pos hempty]
    exact ⟨fun h => absurd h (by simp only [reduceCtorEq, not_false_eq_true]),
      fun h => absurd hempty h.1⟩
  · rw [if_neg hempty, Attempt.mapError_eq_error_iff]
    simp only [Sheet.write_eq_error_iff, inLimits_ofNat_iff hi hj, hrow, toUInt64_ofNat hi,
      toUInt64_ofNat hj, outside]
    constructor
    · rintro ⟨_, ⟨hplace, rfl⟩, rfl⟩
      exact ⟨hempty, hplace, rfl⟩
    · rintro ⟨-, hplace, rfl⟩
      exact ⟨_, ⟨hplace, rfl⟩, rfl⟩

theorem lt_size_of_mem_zipIdx {α : Type} {l : List α} (h : l.length < UInt32.size) {p : α × Nat}
    (hp : p ∈ l.zipIdx) : p.2 < UInt32.size := by
  have hlt := (List.getElem?_eq_some_iff.mp (List.mem_zipIdx_iff_getElem?.mp hp)).1
  omega

/-- Storing a record fails with the first field that is out of place. -/
theorem storeRecord_eq_error_iff {i : Nat} {texts : List String} (hi : i < UInt32.size)
    (hlength : texts.length < UInt32.size) (s : Sheet) (e : Error) :
    storeRecord (UInt32.ofNat i) s texts = .error e ↔ ∃ j t, texts[j]? = some t ∧
      FieldFault i (t, j) e ∧ ∀ j' < j, ∀ t', texts[j']? = some t' → t' ≠ "" → IsPlace i j' := by
  have hstep : ∀ field ∈ texts.zipIdx, ∀ s' e',
      storeField (UInt32.ofNat i) s' field = .error e' ↔ FieldFault i field e' :=
    fun _ hp s' e' => storeField_eq_error_iff hi (lt_size_of_mem_zipIdx hlength hp) s' e'
  rw [storeRecord, Attempt.foldlM_eq_error_iff hstep, Attempt.firstFault_zipIdx_iff]
  simp only [forall_not_fieldFault_iff]

/-- Turning a record into texts fails with the first field that is none. -/
theorem recordTexts_eq_error_iff {trim : Bool} {i : Nat} {r : Record} {e : Error} :
    recordTexts trim i r = .error e ↔ ∃ j bytes, r.fields[j]? = some bytes ∧
      ¬ Utf8.IsText bytes ∧ e = .notText i r.start j (Utf8.validLength (fieldBytes trim bytes)) ∧
      ∀ j' < j, ∀ bytes', r.fields[j']? = some bytes' → Utf8.IsText bytes' := by
  rw [recordTexts, Attempt.mapM_eq_error_iff, Attempt.firstFault_zipIdx_iff]
  simp only [Attempt.mapError_eq_error_iff, fieldText_eq_error_iff]
  constructor
  · rintro ⟨j, bytes, hfield, ⟨n, ⟨hbytes, rfl⟩, rfl⟩, hbefore⟩
    refine ⟨j, bytes, hfield, hbytes, rfl, fun j' hj' bytes' hfield' => ?_⟩
    by_contra hbytes'
    exact hbefore j' hj' bytes' hfield' _ ⟨_, ⟨hbytes', rfl⟩, rfl⟩
  · rintro ⟨j, bytes, hfield, hbytes, rfl, hbefore⟩
    refine ⟨j, bytes, hfield, ⟨_, ⟨hbytes, rfl⟩, rfl⟩, ?_⟩
    rintro j' hj' bytes' hfield' _ ⟨_, ⟨hbytes', -⟩, -⟩
    exact hbytes' (hbefore j' hj' bytes' hfield')

/-- A record is turned into texts when all of its fields are texts. -/
theorem exists_recordTexts_iff {trim : Bool} {i : Nat} {r : Record} :
    (∃ texts, recordTexts trim i r = .ok texts) ↔ ∀ bytes ∈ r.fields, Utf8.IsText bytes := by
  simp only [recordTexts, Attempt.exists_mapM_iff, Attempt.mapError_eq_ok_iff,
    fieldText_eq_ok_iff, exists_fieldText_iff]
  rw [← @List.forall_mem_map _ _ Prod.fst, List.zipIdx_map_fst]

/-- A record is not stored exactly when something is wrong with it, whatever
    was stored before. -/
theorem addRecord_eq_error_iff {trim : Bool} {i : Nat} {r : Record} (hi : i < UInt32.size)
    (hlength : r.fields.length < UInt32.size) (s : Sheet) (e : Error) :
    addRecord trim s (r, i) = .error e ↔ RecordFault trim i r e := by
  rw [addRecord, Attempt.bind_eq_error_iff]
  constructor
  · rintro (htexts | ⟨texts, htexts, hstore⟩)
    · rcases recordTexts_eq_error_iff.mp htexts with ⟨j, bytes, hfield, hbytes, rfl, hbefore⟩
      exact .notText hfield hbytes hbefore
    · -- All fields are texts before the first of them is stored.
      have hfields := recordTexts_eq_ok_iff.mp htexts
      rw [storeRecord_eq_error_iff hi (hfields.length_eq ▸ hlength)] at hstore
      rcases hstore with ⟨j, t, ht, ⟨hne, hplace, rfl⟩, hbefore⟩
      rcases (getElem?_texts_iff hfields).mp ht with ⟨bytes, hfield, htext⟩
      refine .outOfBounds (exists_recordTexts_iff.mp ⟨texts, htexts⟩) hfield htext hne hplace ?_
      exact fun j' hj' bytes' t' hfield' htext' =>
        hbefore j' hj' t' ((getElem?_texts_iff hfields).mpr ⟨bytes', hfield', htext'⟩)
  · intro h
    cases h with
    | notText hfield hbytes hbefore =>
        exact .inl (recordTexts_eq_error_iff.mpr ⟨_, _, hfield, hbytes, rfl, hbefore⟩)
    | outOfBounds htexts hfield htext hne hplace hbefore =>
        rcases (exists_recordTexts_iff (i := i)).mpr htexts with ⟨texts, htexts⟩
        have hfields := recordTexts_eq_ok_iff.mp htexts
        refine .inr ⟨texts, htexts, ?_⟩
        rw [storeRecord_eq_error_iff hi (hfields.length_eq ▸ hlength)]
        refine ⟨_, _, (getElem?_texts_iff hfields).mpr ⟨_, hfield, htext⟩, ⟨hne, hplace, rfl⟩, ?_⟩
        intro j' hj' t' ht'
        rcases (getElem?_texts_iff hfields).mp ht' with ⟨bytes', hfield', htext'⟩
        exact hbefore j' hj' bytes' t' hfield' htext'

/-- Reading fails with what is wrong with the first record that has something
    wrong. -/
theorem read_eq_error_iff {options : ReadOptions} {bytes : List UInt8}
    (h : Counted (records options.dialect bytes)) (e : Error) :
    read options bytes = .error e ↔
      ∃ i r, (records options.dialect bytes)[i]? = some r ∧ RecordFault options.trim i r e ∧
        ∀ i' < i, ∀ r', (records options.dialect bytes)[i']? = some r' →
          ∀ e', ¬ RecordFault options.trim i' r' e' := by
  have hstep : ∀ record ∈ (records options.dialect bytes).zipIdx, ∀ s e',
      addRecord options.trim s record = .error e' ↔
        RecordFault options.trim record.2 record.1 e' := by
    intro record hrecord s e'
    have hr := List.mem_of_getElem? (List.mem_zipIdx_iff_getElem?.mp hrecord)
    exact addRecord_eq_error_iff (lt_size_of_mem_zipIdx h.1 hrecord) (h.2 record.1 hr) s e'
  rw [read, Attempt.foldlM_eq_error_iff hstep, Attempt.firstFault_zipIdx_iff]

/-- The rows that some records are made of. -/
def RowsOf (trim : Bool) (rs : List Record) (rows : List (List String)) : Prop :=
  List.Forall₂ (fun r row => List.Forall₂ (FieldText trim) r.fields row) rs rows

/-- Records are made of rows when all of their fields are texts. -/
theorem exists_rowsOf_iff {trim : Bool} {rs : List Record} :
    (∃ rows, RowsOf trim rs rows) ↔ ∀ r ∈ rs, ∀ bytes ∈ r.fields, Utf8.IsText bytes := by
  have hrows : ∀ rows, RowsOf trim rs rows ↔ rs.mapM (recordTexts trim 0) = .ok rows := by
    intro rows
    simp only [RowsOf, Attempt.mapM_eq_ok_iff, recordTexts_eq_ok_iff]
  simp only [hrows, Attempt.exists_mapM_iff, exists_recordTexts_iff]

/-- Written rows are read back, wherever they begin, as long as each of them has a
    text. -/
theorem rowsOf_writeRows {d : Dialect} (hd : d.Regular) (e : LineEnd) (here : Position)
    {rows : List (List String)} (hrows : ∀ row ∈ rows, row ≠ []) :
    RowsOf false (recordsFrom d here (writeRows d e rows)) rows := by
  have hfields : (recordsFrom d here (writeRows d e rows)).map Record.fields =
      rows.map (List.map textBytes) := by
    rw [fields_recordsFrom_writeRows hd]
    refine List.map_congr_left fun row hrow => ?_
    rw [padded, if_neg fun h => hrows row hrow (List.map_eq_nil_iff.mp (List.isEmpty_iff.mp h))]
  rw [RowsOf, ← List.forall₂_map_left_iff (f := Record.fields), hfields,
    List.forall₂_map_left_iff, List.forall₂_same]
  intro row _
  rw [List.forall₂_map_left_iff, List.forall₂_same]
  exact fun t _ => ⟨t.toList, rfl, String.ofList_toList.symm⟩

/-- The texts of records are those in their rows. -/
theorem RowsOf.textAt_iff {trim : Bool} {rs : List Record} {rows : List (List String)}
    (h : RowsOf trim rs rows) {i j : Nat} {t : String} :
    TextAt trim rs i j t ↔ ∃ row, rows[i]? = some row ∧ row[j]? = some t := by
  rcases Attempt.getElem?_of_forall₂ h i with ⟨hr, hrow⟩ | ⟨r, row, hr, hrow, hfields⟩
  · simp only [TextAt, hr, hrow, reduceCtorEq, false_and, exists_false]
  · simp only [TextAt, hr, hrow, Option.some.injEq, exists_and_left, exists_eq_left',
      getElem?_texts_iff hfields]

/-- Records that are made of rows are read by writing the rows into a fresh
    sheet. -/
theorem RowsOf.read_eq_writeAll {options : ReadOptions} {bytes : List UInt8}
    {rows : List (List String)} (h : RowsOf options.trim (records options.dialect bytes) rows) :
    read options bytes =
      ((Sheet.fresh Sheet.defaultName).writeAll (tableWrites rows)).mapError .outOfBounds :=
  foldlM_addRecord (h.imp fun _ _ hrow _ => recordTexts_eq_ok_iff.mpr hrow) 0 _

/-- Records are read only if all of their fields are texts. -/
theorem exists_rowsOf_of_read {options : ReadOptions} {bytes : List UInt8} {s : Sheet}
    (h : read options bytes = .ok s) :
    ∃ rows, RowsOf options.trim (records options.dialect bytes) rows := by
  rw [exists_rowsOf_iff]
  intro r hr
  rcases List.getElem?_of_mem hr with ⟨i, hi⟩
  rcases Attempt.exists_of_foldlM h (r, i) (List.mem_zipIdx_iff_getElem?.mpr hi) with
    ⟨s₁, s₂, hadd⟩
  rcases Attempt.bind_eq_ok_iff.mp hadd with ⟨texts, htexts, -⟩
  exact exists_recordTexts_iff.mp ⟨texts, htexts⟩

theorem TextAt.lt_size {trim : Bool} {rs : List Record} (h : Counted rs) {i j : Nat} {t : String}
    (ht : TextAt trim rs i j t) : i < UInt32.size ∧ j < UInt32.size := by
  rcases ht with ⟨r, bytes, hr, hfield, -⟩
  have hlength := h.2 r (List.mem_of_getElem? hr)
  exact ⟨lt_trans (List.getElem?_eq_some_iff.mp hr).1 h.1,
    lt_trans (List.getElem?_eq_some_iff.mp hfield).1 hlength⟩

/-- What is written of the rows are the texts that hold something. -/
theorem RowsOf.mem_tableWrites_iff {trim : Bool} {rs : List Record} {rows : List (List String)}
    (h : RowsOf trim rs rows) {w : Address × String} :
    w ∈ tableWrites rows ↔ ∃ i j, TextAt trim rs i j w.2 ∧ w.2 ≠ "" ∧
      w.1 = ⟨UInt32.ofNat i, UInt32.ofNat j⟩ := by
  simp only [Csv.mem_tableWrites_iff, h.textAt_iff]
  constructor
  · rintro ⟨i, j, row, hrow, ht, hne, hw⟩
    exact ⟨i, j, ⟨row, hrow, ht⟩, hne, hw⟩
  · rintro ⟨i, j, ⟨row, hrow, ht⟩, hne, hw⟩
    exact ⟨i, j, row, hrow, ht, hne, hw⟩

/-- The writes are within the limits when the texts stand at places of a
    sheet. -/
theorem RowsOf.inLimits_iff {trim : Bool} {rs : List Record} {rows : List (List String)}
    (h : RowsOf trim rs rows) (hcounted : Counted rs) :
    (∀ w ∈ tableWrites rows, w.1.InLimits) ↔
      ∀ i j t, TextAt trim rs i j t → t ≠ "" → IsPlace i j := by
  simp only [h.mem_tableWrites_iff]
  constructor
  · intro hlimits i j t ht hne
    have hlt := ht.lt_size hcounted
    exact (inLimits_ofNat_iff hlt.1 hlt.2).mp (hlimits (_, t) ⟨i, j, ht, hne, rfl⟩)
  · rintro hplaces ⟨a, t⟩ ⟨i, j, ht, hne, rfl⟩
    have hlt := ht.lt_size hcounted
    exact (inLimits_ofNat_iff hlt.1 hlt.2).mpr (hplaces i j t ht hne)

/-- Which text stands at a place of some rows. -/
theorem textIn_eq_iff {rows : List (List String)} {a : Address} {t : String} (ht : t ≠ "") :
    textIn rows a = t ↔ ∃ row, rows[a.row.toNat]? = some row ∧ row[a.col.toNat]? = some t := by
  rw [textIn]
  rcases rows[a.row.toNat]? with _ | row
  · simp only [Option.getD_none, List.getElem?_nil, reduceCtorEq, false_and, exists_false,
      iff_false]
    exact ht.symm
  · simp only [Option.getD_some, Option.some.injEq, exists_eq_left']
    rcases row[a.col.toNat]? with _ | u
    · simp only [Option.getD_none, reduceCtorEq, iff_false]
      exact ht.symm
    · rw [Option.getD_some, Option.some.injEq]

theorem RowsOf.textIn_eq_iff {trim : Bool} {rs : List Record} {rows : List (List String)}
    (h : RowsOf trim rs rows) {a : Address} {t : String} (ht : t ≠ "") :
    textIn rows a = t ↔ TextAt trim rs a.row.toNat a.col.toNat t :=
  (Csv.textIn_eq_iff ht).trans h.textAt_iff.symm

/-- What the writes need along an axis, by the numbers of records and fields. -/
theorem RowsOf.needs_eq {trim : Bool} {rs : List Record} {rows : List (List String)}
    (h : RowsOf trim rs rows) (hcounted : Counted rs) (place : Address → UInt32)
    {index : Nat → Nat → Nat}
    (hplace : ∀ i j, i < UInt32.size → j < UInt32.size →
      (place ⟨UInt32.ofNat i, UInt32.ofNat j⟩).toNat = index i j) :
    {n | ∃ w ∈ tableWrites rows, w.2 ≠ "" ∧ n = (place w.1).toNat + 1} =
      {n | ∃ i j t, TextAt trim rs i j t ∧ t ≠ "" ∧ n = index i j + 1} := by
  ext n
  simp only [h.mem_tableWrites_iff, Set.mem_ofPred_eq]
  constructor
  · rintro ⟨⟨a, t⟩, ⟨i, j, ht, hne, rfl⟩, -, rfl⟩
    have hlt := ht.lt_size hcounted
    exact ⟨i, j, t, ht, hne, by rw [hplace i j hlt.1 hlt.2]⟩
  · rintro ⟨i, j, t, ht, hne, rfl⟩
    have hlt := ht.lt_size hcounted
    exact ⟨(_, t), ⟨i, j, ht, hne, rfl⟩, hne, by rw [hplace i j hlt.1 hlt.2]⟩

/-- The rows of some records, written into a fresh sheet, are what is expected
    of the records. -/
theorem RowsOf.filled {trim : Bool} {rs : List Record} {rows : List (List String)}
    (h : RowsOf trim rs rows) (hcounted : Counted rs)
    (hlimits : ∀ w ∈ tableWrites rows, w.1.InLimits)
    (hnonempty : ∀ a : Address,
      ((Sheet.fresh Sheet.defaultName).storeAll (tableWrites rows)).cells[a]? ≠ some "") :
    Filled trim rs ((Sheet.fresh Sheet.defaultName).storeAll (tableWrites rows)) := by
  have hfits : Fits rows := fun i j row t hrow ht hne =>
    (h.inLimits_iff hcounted).mp hlimits i j t (h.textAt_iff.mpr ⟨row, hrow, ht⟩) hne
  have hfresh : ∀ a, (Sheet.fresh Sheet.defaultName).text a = "" := Sheet.text_empty _ _ _
  refine ⟨Sheet.name_storeAll _ _, fun a t => ?_, ?_, ?_⟩
  · -- An empty text at a place is a cell that holds nothing.
    rw [Sheet.cells_eq_of_text _ hnonempty, text_storeAll_tableWrites hfits hfresh]
    by_cases hempty : textIn rows a = ""
    · rw [if_pos hempty]
      simp only [reduceCtorEq, false_iff, not_and]
      exact fun hne ht => hne (((h.textIn_eq_iff hne).mpr ht).symm.trans hempty)
    · rw [if_neg hempty, Option.some.injEq]
      constructor
      · rintro rfl
        exact ⟨hempty, (h.textIn_eq_iff hempty).mp rfl⟩
      · exact fun ⟨hne, ht⟩ => (h.textIn_eq_iff hne).mpr ht
  · rw [← h.needs_eq hcounted Address.row fun i j hi _ => UInt32.toNat_ofNat_of_lt' hi]
    exact Sheet.isGreatest_storeAll Sheet.rows_store _ hlimits _
  · rw [← h.needs_eq hcounted Address.col fun i j _ hj => UInt32.toNat_ofNat_of_lt' hj]
    exact Sheet.isGreatest_storeAll Sheet.cols_store _ hlimits _

/-- Bytes are read when every field is a text and every text has a place. -/
theorem exists_read_iff {options : ReadOptions} {bytes : List UInt8}
    (h : Counted (records options.dialect bytes)) :
    (∃ s, read options bytes = .ok s) ↔
      (∀ r ∈ records options.dialect bytes, ∀ field ∈ r.fields, Utf8.IsText field) ∧
        ∀ i j t, TextAt options.trim (records options.dialect bytes) i j t → t ≠ "" →
          IsPlace i j := by
  constructor
  · rintro ⟨s, hs⟩
    rcases exists_rowsOf_of_read hs with ⟨rows, hrows⟩
    refine ⟨exists_rowsOf_iff.mp ⟨rows, hrows⟩, (hrows.inLimits_iff h).mp ?_⟩
    rw [hrows.read_eq_writeAll, Attempt.mapError_eq_ok_iff, Sheet.writeAll_eq_ok_iff] at hs
    exact hs.1
  · rintro ⟨htexts, hplaces⟩
    rcases exists_rowsOf_iff.mpr htexts with ⟨rows, hrows⟩
    refine ⟨(Sheet.fresh Sheet.defaultName).storeAll (tableWrites rows), ?_⟩
    rw [hrows.read_eq_writeAll, Attempt.mapError_eq_ok_iff]
    exact Sheet.writeAll_of_inLimits _ ((hrows.inLimits_iff h).mpr hplaces) _

/-- What is read is filled as expected. -/
theorem filled_of_read {options : ReadOptions} {bytes : List UInt8}
    (h : Counted (records options.dialect bytes)) {s : Sheet} (hs : read options bytes = .ok s) :
    Filled options.trim (records options.dialect bytes) s := by
  have hnonempty := (Sheet.Valid.of_read hs).nonempty
  rcases exists_rowsOf_of_read hs with ⟨rows, hrows⟩
  rw [hrows.read_eq_writeAll, Attempt.mapError_eq_ok_iff, Sheet.writeAll_eq_ok_iff] at hs
  rcases hs with ⟨hlimits, rfl⟩
  exact hrows.filled h hlimits hnonempty

/-- Bytes are read exactly when every field is a text and every text that is
    not empty has a place, and then the sheet is filled with them. Otherwise
    reading fails with what is wrong with the first record that has something
    wrong. -/
theorem read_outcome (options : ReadOptions) (bytes : List UInt8)
    (h : Counted (records options.dialect bytes)) :
    ((∃ s, read options bytes = .ok s) ↔
      (∀ r ∈ records options.dialect bytes, ∀ field ∈ r.fields, Utf8.IsText field) ∧
        ∀ i j t, TextAt options.trim (records options.dialect bytes) i j t → t ≠ "" →
          IsPlace i j) ∧
    (∀ s, read options bytes = .ok s → Filled options.trim (records options.dialect bytes) s) ∧
    ∀ e, read options bytes = .error e ↔
      ∃ i r, (records options.dialect bytes)[i]? = some r ∧ RecordFault options.trim i r e ∧
        ∀ i' < i, ∀ r', (records options.dialect bytes)[i']? = some r' →
          ∀ e', ¬ RecordFault options.trim i' r' e' :=
  ⟨exists_read_iff h, fun _ hs => filled_of_read h hs, read_eq_error_iff h⟩

theorem cut_stray : Utf8.cut [0xFF] = [none] := by
  have hstep : Utf8.step 0xFF [] = (none, []) := by decide
  have hnil : Utf8.cut [] = [] := Utf8.cut_encode []
  rw [Utf8.cut_cons, hstep, hnil]

theorem not_isText_stray : ¬ Utf8.IsText [0xFF] := by
  rintro ⟨cs, hcs⟩
  have h := Utf8.decode?_encode cs
  rw [hcs, Utf8.decode?, cut_stray] at h
  exact absurd h (by rintro ⟨⟩)

/-- A byte that begins no text, in the second field of the second record. -/
theorem read_outcome_stray :
    read ⟨.delimitedBy comma, false⟩ [97, 10, 98, 44, 0xFF, 10] =
      .error (.notText 1 ⟨2, 2⟩ 1 0) := by
  have hrecords : records (.delimitedBy comma) [97, 10, 98, 44, 0xFF, 10] =
      [⟨⟨0, 1⟩, [[97]]⟩, ⟨⟨2, 2⟩, [[98], [0xFF]]⟩] := by decide
  have hlength : Utf8.validLength (fieldBytes false [0xFF]) = 0 := by
    rw [fieldBytes, if_neg Bool.false_ne_true, Utf8.validLength, cut_stray]
    rfl
  have hletter : Utf8.IsText [97] ∧ Utf8.IsText [98] :=
    ⟨Utf8.isText_singleton (by decide), Utf8.isText_singleton (by decide)⟩
  refine ((read_outcome _ _ ⟨by decide, by decide⟩).2.2 _).mpr ⟨1, ⟨⟨2, 2⟩, [[98], [0xFF]]⟩, ?_⟩
  rw [hrecords]
  refine ⟨rfl, hlength ▸ .notText rfl not_isText_stray ?_, ?_⟩
  · rintro j hj bytes hfield
    have hzero : j = 0 := by omega
    subst hzero
    exact Option.some.inj hfield ▸ hletter.2
  · rintro i hi r hr e hfault
    have hzero : i = 0 := by omega
    subst hzero
    cases Option.some.inj hr
    cases hfault with
    | notText hfield hbytes _ =>
        rw [List.mem_singleton.mp (List.mem_of_getElem? hfield)] at hbytes
        exact hbytes hletter.1
    | @outOfBounds j _ _ _ hfield _ _ hplace _ =>
        have hj : j < 1 := (List.getElem?_eq_some_iff.mp hfield).1
        exact hplace ⟨by decide, lt_trans hj (by decide)⟩

end Csv

end Worksheet
