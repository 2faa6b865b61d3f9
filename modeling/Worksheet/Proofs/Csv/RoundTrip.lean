import Worksheet.Proofs.Csv.Filling

/-!
# Writing and Reading Back

What is written can be read, and holds what was written.

Rows of texts are written as a text, whatever they hold. Reading finds their
records, and from the records fills a sheet with the texts at their places,
unless one of them lies beyond the limits. The dialect does not matter as long
as it is regular, and neither does the line end.

There is one exception, and it is at the very front. A reader passes over a
byte order mark there, without asking whether the mark was meant as part of
the first text. Written rows that begin with it read as if they did not, so
what is said here is said of rows that begin otherwise.

## Theorems

* `exists_read_of_records`: Records of written rows are read as the rows.
* `exists_read_of_not_mark`: Rows that begin otherwise are read as they are.
* `decode_and_read_writeRows`: Written rows are a text, and it is read back.
-/

namespace Worksheet

namespace Csv

variable {d : Dialect}

theorem textBytes_empty : textBytes "" = [] := by
  rw [textBytes, String.toList_empty, Utf8.encode, List.flatMap_nil]

/-- A row can be padded before or after its texts become bytes. -/
theorem padded_textBytes (row : List String) :
    padded [] (row.map textBytes) = (padded "" row).map textBytes := by
  rw [map_padded, textBytes_empty]

theorem getElem?_padded {row : List String} {j : Nat} {t : String} (ht : t ≠ "") :
    (padded "" row)[j]? = some t ↔ row[j]? = some t := by
  cases row with
  | nil =>
      rw [padded, if_pos List.isEmpty_nil, List.getElem?_nil]
      cases j with
      | zero => exact ⟨fun h => absurd (Option.some.inj h).symm ht, fun h => nomatch h⟩
      | succ j => rfl
  | cons u row => rfl

theorem getD_padded (row : List String) (j : Nat) :
    (padded "" row)[j]?.getD "" = row[j]?.getD "" := by
  cases row with
  | nil => cases j <;> rfl
  | cons u row => rfl

/-- Padding adds nothing that would have to fit. -/
theorem Fits.padded {rows : List (List String)} (h : Fits rows) : Fits (rows.map (padded "")) := by
  intro i j row t hrow ht hne
  rw [List.getElem?_map, Option.map_eq_some_iff] at hrow
  rcases hrow with ⟨row', hrow', rfl⟩
  exact h i j row' t hrow' ((getElem?_padded hne).mp ht) hne

/-- Nothing else stands in padded rows. -/
theorem textIn_padded (rows : List (List String)) (a : Address) :
    textIn (rows.map (padded "")) a = textIn rows a := by
  rw [textIn, List.getElem?_map, textIn]
  rcases rows[a.row.toNat]? with _ | row
  · rfl
  · exact getD_padded row a.col.toNat

/-- Bytes with the records of some written rows are read as those rows. -/
theorem exists_read_of_records {bytes : List UInt8} {rows : List (List String)}
    (h : (records d bytes).map Record.fields = rows.map fun row => padded [] (row.map textBytes))
    (hfits : Fits rows) :
    ∃ s, read ⟨d, false⟩ bytes = .ok s ∧ ∀ a, s.text a = textIn rows a := by
  have hfields : (records d bytes).map Record.fields =
      (rows.map (padded "")).map (List.map textBytes) := by
    rw [h, List.map_map]
    exact List.map_congr_left fun row _ => padded_textBytes row
  rcases read_of_fields hfields hfits.padded with ⟨s, hs, htext⟩
  exact ⟨s, hs, fun a => (htext a).trans (textIn_padded rows a)⟩

/-- Few and short rows fit. -/
theorem fits_of_length_le {rows : List (List String)} (hrows : rows.length ≤ maxRows.toNat)
    (hcols : ∀ row ∈ rows, row.length ≤ maxCols.toNat) : Fits rows := by
  intro i j row t hrow ht _
  have hi := (List.getElem?_eq_some_iff.mp hrow).1
  have hj := (List.getElem?_eq_some_iff.mp ht).1
  have hlen := hcols row (List.mem_of_getElem? hrow)
  exact ⟨by omega, by omega⟩

/-- Rows that are not written with a mark in front are read as they are. -/
theorem exists_read_of_not_mark (hd : d.Regular) (e : LineEnd) {rows : List (List String)}
    (hmark : ∀ rest, writeRows d e rows ≠ 0xEF :: 0xBB :: 0xBF :: rest) (hfits : Fits rows) :
    ∃ s, read ⟨d, false⟩ (writeRows d e rows) = .ok s ∧ ∀ a, s.text a = textIn rows a :=
  exists_read_of_records
    (by rw [records_of_not_mark hmark, fields_recordsFrom_writeRows hd]) hfits

/-- Written rows are a text. If it does not begin with the byte order mark, and
    every text that is not empty fits within the limits, reading it succeeds
    and gives a sheet that holds every text at its place and nothing else. -/
theorem decode_and_read_writeRows (d : Dialect) (hd : d.Regular) (e : LineEnd)
    (rows : List (List String)) :
    ∃ cs, Utf8.decode? (writeRows d e rows) = some cs ∧
      (cs.head? ≠ some '\uFEFF' → Fits rows →
        ∃ s, read ⟨d, false⟩ (writeRows d e rows) = .ok s ∧ ∀ a, s.text a = textIn rows a) := by
  rcases (isText_writeRows hd e rows).decode?_isSome with ⟨cs, hdecode, hencode⟩
  refine ⟨cs, hdecode, fun hhead hfits => exists_read_of_not_mark hd e (fun rest hc => ?_) hfits⟩
  exact hhead (Utf8.head?_of_mark (hencode.trans hc))

/-- Quotes and delimiters that are no usual ones, a character outside ASCII, a
    line end inside of a text, and a row without any text. -/
theorem decode_and_read_writeRows_unusual :
    ∃ s, read ⟨⟨59, 39⟩, false⟩
        (writeRows ⟨59, 39⟩ .crlf [["", "it's; ñ"], [], ["\r\n", "x"]]) = .ok s ∧
      s.text ⟨0, 1⟩ = "it's; ñ" ∧ s.text ⟨1, 0⟩ = "" ∧ s.text ⟨2, 0⟩ = "\r\n" := by
  have hbytes : writeRows ⟨59, 39⟩ .crlf [["", "it's; ñ"], [], ["\r\n", "x"]] =
      Utf8.encode [';', '\'', 'i', 't', '\'', '\'', 's', ';', ' ', 'ñ', '\'', '\r', '\n',
        '\'', '\'', '\r', '\n', '\'', '\r', '\n', '\'', ';', 'x', '\r', '\n'] := by decide
  rcases decode_and_read_writeRows ⟨59, 39⟩ (by decide) .crlf
    [["", "it's; ñ"], [], ["\r\n", "x"]] with ⟨cs, hdecode, hread⟩
  rw [hbytes, Utf8.decode?_encode, Option.some.injEq] at hdecode
  rcases hread (by rw [← hdecode]; decide) (fits_of_length_le (by decide) (by decide)) with
    ⟨s, hs, htext⟩
  exact ⟨s, hs, htext ⟨0, 1⟩, htext ⟨1, 0⟩, htext ⟨2, 0⟩⟩

end Csv

end Worksheet
