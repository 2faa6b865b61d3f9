import Worksheet.Proofs.Csv.RoundTrip

/-!
# A Byte Order Mark in Front

What happens to rows whose first text begins with the byte order mark.

Quotes protect a mark: when the first text needs them, they stand in front of
it. Nothing else does. A text that begins with the mark and needs no quotes is
written with the three bytes of the mark in front of everything, and there the
reader takes them for a mark on the file and passes over them.

Two things can come of it. If anything is left of the first line, the first
text is read without its mark. If nothing is, the line is as good as empty, it
makes no record, and every row is read one place further up. In either case a
text is not where it was.

## Main definitions

* `BareMark`: The first text begins with the mark and needs no quotes.
* `unmarked`: What is left of rows without the mark.

## Theorems

* `bareMark_of_writeRows`: A mark in front comes from a bare first text.
* `records_of_bareMark`: What is scanned behind the mark.
* `exists_textIn_unmarked_ne`: That is always something else.
* `exists_read_of_bareMark`: Rows with a bare mark are read without it.
* `exists_read_writeRows`: Exactly the other rows are read as they were.
-/

namespace Worksheet

namespace Csv

variable {d : Dialect}

/-- The first text begins with the byte order mark and needs no quotes. -/
def BareMark (d : Dialect) (t : String) : Prop :=
  t.toList.head? = some '\uFEFF' ∧ needsQuotes d (textBytes t) = false

/-- What is left of rows when the mark at the front of their first text is taken
    away: the shorter text, or no first row when it held nothing else. -/
def unmarked : List (List String) → List (List String)
  | (t :: more) :: tail =>
    if t.toList.tail = [] ∧ more = [] then tail
    else (String.ofList t.toList.tail :: more) :: tail
  | rows => rows

/-- No byte of ASCII is the first byte of the mark. -/
theorem ne_mark_of_lt {b : UInt8} (h : b.toNat < 128) : b ≠ 0xEF := by
  rintro rfl
  exact absurd h (by decide)

theorem exists_cons_of_textIn_ne {rows : List (List String)} (h : textIn rows ⟨0, 0⟩ ≠ "") :
    ∃ more tail, rows = (textIn rows ⟨0, 0⟩ :: more) :: tail := by
  match rows with
  | [] => exact absurd rfl h
  | [] :: tail => exact absurd rfl h
  | (t :: more) :: tail => exact ⟨more, tail, rfl⟩

/-- A line that begins with the bytes of the mark begins with a text that
    begins with the mark. -/
theorem bareMark_of_writeFields (hd : d.Regular) {t : String} {more : List (List UInt8)}
    {tail rest : List UInt8} (hline : writeFields d (textBytes t :: more) ≠ [])
    (h : writeFields d (textBytes t :: more) ++ tail = 0xEF :: 0xBB :: 0xBF :: rest) :
    BareMark d t := by
  -- Anything else in front is the quote, the delimiter or another character.
  rw [writeFields_cons, writeField] at h hline
  by_cases hquotes : needsQuotes d (textBytes t) = true
  · rw [if_pos hquotes, List.cons_append, List.cons_append, List.cons_append, List.cons.injEq] at h
    exact absurd h.1 (ne_mark_of_lt hd.quote_lt)
  · rw [if_neg hquotes] at h hline
    rw [Bool.not_eq_true] at hquotes
    rcases hcs : t.toList with _ | ⟨c, cs⟩
    · -- An empty first text leaves the delimiter in front.
      rw [textBytes, hcs, Utf8.encode, List.flatMap_nil, List.nil_append] at h hline
      cases more with
      | nil => exact absurd rfl hline
      | cons field more =>
          rw [writeBehind, List.flatMap_cons, List.cons_append, List.cons_append,
            List.cons.injEq] at h
          exact absurd h.1 (ne_mark_of_lt hd.delimiter_lt)
    · rw [textBytes, hcs, List.append_assoc] at h
      refine ⟨?_, hquotes⟩
      rw [hcs, List.head?_cons, Utf8.eq_mark_of_encode_append h]

/-- Written rows with a mark in front have a bare first text with the mark. -/
theorem bareMark_of_writeRows (hd : d.Regular) (e : LineEnd) {rows : List (List String)}
    {rest : List UInt8} (h : writeRows d e rows = 0xEF :: 0xBB :: 0xBF :: rest) :
    BareMark d (textIn rows ⟨0, 0⟩) := by
  cases rows with
  | nil => exact absurd h.symm (List.cons_ne_nil _ _)
  | cons row tail =>
      rw [writeRows_cons, writeRecord] at h
      by_cases hempty : (writeFields d (row.map textBytes)).isEmpty = true
      · rw [if_pos hempty, List.cons_append, List.cons_append, List.cons_append,
          List.cons_append, List.cons.injEq] at h
        exact absurd h.1 (ne_mark_of_lt hd.quote_lt)
      · rw [if_neg hempty, List.append_assoc] at h
        cases row with
        | nil => exact absurd rfl hempty
        | cons t more =>
            exact bareMark_of_writeFields hd (fun hc => hempty (List.isEmpty_iff.mpr hc)) h

/-- A bare first text with the mark is written as the mark and the rest of the
    text. -/
theorem writeFields_of_bareMark {t : String} {cs : List Char} (ht : t.toList = '\uFEFF' :: cs)
    (hbare : needsQuotes d (textBytes t) = false) (more : List (List UInt8)) :
    writeFields d (textBytes t :: more) =
      0xEF :: 0xBB :: 0xBF :: writeFields d (textBytes (String.ofList cs) :: more) := by
  have hbytes : textBytes t = 0xEF :: 0xBB :: 0xBF :: textBytes (String.ofList cs) := by
    rw [textBytes, ht, Utf8.encode_mark, textBytes, String.toList_ofList]
  have hrest : needsQuotes d (textBytes (String.ofList cs)) = false := by
    rw [hbytes, needsQuotes_cons_eq_false, needsQuotes_cons_eq_false,
      needsQuotes_cons_eq_false] at hbare
    exact hbare.2.2.2
  rw [writeFields_cons, writeFields_cons, writeField, hbare, if_neg Bool.false_ne_true,
    writeField, hrest, if_neg Bool.false_ne_true, hbytes, List.cons_append, List.cons_append,
    List.cons_append]

/-- Behind the mark the rest of the first text is scanned, with everything that
    follows. If the mark is the whole first line, its line end is left of it. -/
theorem records_of_bareMark (e : LineEnd) {t : String} {cs : List Char}
    (ht : t.toList = '\uFEFF' :: cs) (hbare : needsQuotes d (textBytes t) = false)
    (more : List String) (tail : List (List String)) :
    records d (writeRows d e ((t :: more) :: tail)) = recordsFrom d ⟨3, 1⟩
      (if cs = [] ∧ more = [] then e.bytes ++ writeRows d e tail
        else writeRows d e ((String.ofList cs :: more) :: tail)) := by
  -- The three bytes of the mark lead the first line, and the scan begins behind them.
  have hline := writeFields_of_bareMark ht hbare (more.map textBytes)
  have hbytes : writeRows d e ((t :: more) :: tail) = 0xEF :: 0xBB :: 0xBF ::
      (writeFields d (textBytes (String.ofList cs) :: more.map textBytes) ++
        (e.bytes ++ writeRows d e tail)) := by
    rw [writeRows_cons, writeRecord, List.map_cons, hline, List.isEmpty_cons,
      if_neg Bool.false_ne_true, List.append_assoc, List.cons_append, List.cons_append, List.cons_append]
  have hscan : records d (writeRows d e ((t :: more) :: tail)) = recordsFrom d ⟨3, 1⟩
      (writeFields d (textBytes (String.ofList cs) :: more.map textBytes) ++
        (e.bytes ++ writeRows d e tail)) := by
    rw [hbytes, records]
  rw [hscan]
  by_cases hempty : cs = [] ∧ more = []
  · rw [if_pos hempty, hempty.1, hempty.2, List.map_nil, writeFields_singleton, String.ofList_nil,
      textBytes_empty]
    rfl
  · -- What is left of the line has some bytes, so it is written as it is.
    have hleft : ¬ (writeFields d (textBytes (String.ofList cs) :: more.map textBytes)).isEmpty
        = true := by
      intro hc
      rw [List.isEmpty_iff, writeFields_cons, List.append_eq_nil_iff] at hc
      refine hempty ⟨?_, ?_⟩
      · have hcs := writeField_eq_nil hc.1
        rw [textBytes, String.toList_ofList] at hcs
        exact Utf8.encode_eq_nil_iff.mp hcs
      · cases more with
        | nil => rfl
        | cons u more => exact absurd hc.2 (List.cons_ne_nil _ _)
    rw [if_neg hempty, writeRows_cons, writeRecord, List.map_cons, if_neg hleft,
      List.append_assoc]

/-- Moving rows up by one place changes a first column that is not empty at its
    top. -/
theorem exists_ne_of_tail (first : List String) (h : first[0]?.getD "" ≠ "")
    (tail : List (List String)) :
    ∃ i ≤ tail.length, (tail[i]?.getD [])[0]?.getD "" ≠
      ((first :: tail)[i]?.getD [])[0]?.getD "" := by
  by_contra hc
  have hsame : ∀ i ≤ tail.length, (tail[i]?.getD [])[0]?.getD "" =
      ((first :: tail)[i]?.getD [])[0]?.getD "" :=
    fun i hi => not_not.mp fun hne => hc ⟨i, hi, hne⟩
  -- If nothing changed the column would be the same all the way down, but it ends.
  have hall : ∀ i ≤ tail.length, ((first :: tail)[i]?.getD [])[0]?.getD "" ≠ "" := by
    intro i
    induction i with
    | zero => intro _; exact h
    | succ i ih =>
        intro hi
        rw [List.getElem?_cons_succ, hsame i (by omega)]
        exact ih (by omega)
  refine hall tail.length (Nat.le_refl _) ?_
  rw [← hsame tail.length (Nat.le_refl _), List.getElem?_eq_none (Nat.le_refl _)]
  rfl

/-- The shape of rows whose first text begins with the mark, and what is left of
    them without it. -/
theorem exists_shape_of_mark {rows : List (List String)}
    (hmark : (textIn rows ⟨0, 0⟩).toList.head? = some '\uFEFF') :
    ∃ cs more tail, (textIn rows ⟨0, 0⟩).toList = '\uFEFF' :: cs ∧
      rows = (textIn rows ⟨0, 0⟩ :: more) :: tail ∧
      unmarked rows =
        if cs = [] ∧ more = [] then tail else (String.ofList cs :: more) :: tail := by
  rcases List.head?_eq_some_iff.mp hmark with ⟨cs, ht⟩
  have hne : textIn rows ⟨0, 0⟩ ≠ "" := by
    intro hc
    rw [hc] at ht
    exact absurd ht (by simp only [String.toList_empty, reduceCtorEq, not_false_eq_true])
  rcases exists_cons_of_textIn_ne hne with ⟨more, tail, hshape⟩
  refine ⟨cs, more, tail, ht, hshape, ?_⟩
  generalize textIn rows ⟨0, 0⟩ = t at ht hshape
  rw [hshape, unmarked, ht, List.tail_cons]

/-- Rows lose something with a mark in front. -/
theorem exists_textIn_unmarked_ne {rows : List (List String)}
    (hrows : rows.length ≤ maxRows.toNat)
    (hmark : (textIn rows ⟨0, 0⟩).toList.head? = some '\uFEFF') :
    ∃ a, textIn (unmarked rows) a ≠ textIn rows a := by
  rcases exists_shape_of_mark hmark with ⟨cs, more, tail, ht, hshape, hunmarked⟩
  rw [hunmarked]
  generalize textIn rows ⟨0, 0⟩ = t at ht hshape
  subst hshape
  have hlen : tail.length + 1 ≤ maxRows.toNat := hrows
  have hne : t ≠ "" := by
    rintro rfl
    exact absurd ht (by simp only [String.toList_empty, reduceCtorEq, not_false_eq_true])
  by_cases hempty : cs = [] ∧ more = []
  · -- The first line is passed over, so some row differs from the one below it.
    rcases exists_ne_of_tail (t :: more) hne tail with ⟨i, hi, hdiffer⟩
    refine ⟨⟨UInt32.ofNat i, 0⟩, ?_⟩
    rw [if_pos hempty, textIn, textIn,
      Word.toNat_ofNat_of_lt (show i < maxRows.toNat by omega)]
    exact hdiffer
  · -- The first text is shorter than it was.
    refine ⟨⟨0, 0⟩, fun hc => ?_⟩
    rw [if_neg hempty] at hc
    have hcs : String.ofList cs = t := hc
    rw [← hcs, String.toList_ofList] at ht
    exact absurd ht (by simp only [List.ne_cons_self, not_false_eq_true])

/-- Rows with a bare mark in front are read as what is left of them without it:
    either the first text has lost the mark, or all rows have moved up. -/
theorem exists_read_of_bareMark (hd : d.Regular) (e : LineEnd) {rows : List (List String)}
    (hrows : rows.length ≤ maxRows.toNat) (hcols : ∀ row ∈ rows, row.length ≤ maxCols.toNat)
    (hmark : BareMark d (textIn rows ⟨0, 0⟩)) :
    ∃ s, read ⟨d, false⟩ (writeRows d e rows) = .ok s ∧
      ∀ a, s.text a = textIn (unmarked rows) a := by
  rcases exists_shape_of_mark hmark.1 with ⟨cs, more, tail, ht, hshape, hunmarked⟩
  rw [hunmarked]
  generalize textIn rows ⟨0, 0⟩ = t at hshape hmark ht
  subst hshape
  have hscan := records_of_bareMark e ht hmark.2 more tail
  by_cases hempty : cs = [] ∧ more = []
  · -- The line end that is left of the first line makes no record.
    rw [if_pos hempty] at hscan ⊢
    have hlen : tail.length + 1 ≤ maxRows.toNat := hrows
    have hfits : Fits tail :=
      fits_of_length_le (by omega) fun row hrow => hcols row (List.mem_cons_of_mem _ hrow)
    exact exists_read_of_records (by rw [hscan, fields_recordsFrom_lineEnd hd]) hfits
  · -- The first line is one that would be written for the shorter text.
    rw [if_neg hempty] at hscan ⊢
    have hfits : Fits ((String.ofList cs :: more) :: tail) := by
      refine fits_of_length_le hrows fun row hrow => ?_
      rcases List.mem_cons.mp hrow with rfl | hrow
      · exact hcols (t :: more) List.mem_cons_self
      · exact hcols row (List.mem_cons_of_mem _ hrow)
    exact exists_read_of_records (by rw [hscan, fields_recordsFrom_writeRows hd]) hfits

/-- Rows within the limits are always read, and they are read as they were
    unless a bare mark is in front; then it is missing. -/
theorem exists_read_writeRows (hd : d.Regular) (e : LineEnd) {rows : List (List String)}
    (hrows : rows.length ≤ maxRows.toNat) (hcols : ∀ row ∈ rows, row.length ≤ maxCols.toNat) :
    ∃ s, read ⟨d, false⟩ (writeRows d e rows) = .ok s ∧
      ((∀ a, s.text a = textIn rows a) ↔ ¬ BareMark d (textIn rows ⟨0, 0⟩)) ∧
      (BareMark d (textIn rows ⟨0, 0⟩) → ∀ a, s.text a = textIn (unmarked rows) a) := by
  by_cases hmark : BareMark d (textIn rows ⟨0, 0⟩)
  · rcases exists_read_of_bareMark hd e hrows hcols hmark with ⟨s, hs, htext⟩
    rcases exists_textIn_unmarked_ne hrows hmark.1 with ⟨a, ha⟩
    rw [← htext a] at ha
    exact ⟨s, hs, ⟨fun h => absurd (h a) ha, fun h => absurd hmark h⟩, fun _ => htext⟩
  · rcases exists_read_of_not_mark hd e (fun _ hc => hmark (bareMark_of_writeRows hd e hc))
      (fits_of_length_le hrows hcols) with ⟨s, hs, htext⟩
    exact ⟨s, hs, ⟨fun _ => hmark, fun _ => htext⟩, fun h => absurd h hmark⟩

end Csv

end Worksheet
