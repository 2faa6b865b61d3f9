import Worksheet.Csv.Record
import Worksheet.Proofs.Csv.Writer

/-!
# Scanning What Was Written

The scanner finds the records that the writer was given.

Writer and scanner are different machines. The writer decides once for each
field whether it needs quotes, and the scanner takes one byte after the other.
What ties them together is what the scanner has in hand, the places aside:
its phase, the bytes of the field, the finished fields and the finished
records. `Scanner.Sees` says that, and every byte moves it in a way that
depends on the phase and on the kind of the byte only.

On top of the single bytes come the pieces the writer puts together. The bytes
of a field take the scanner from in front of the field to its end, the fields
of a record to the end of the record, and a line end back in front of a record.
Each piece is an induction over the one below it.

Only one thing is lost. A record without fields and a record with one empty
field are written alike, and the scanner finds the latter.

## Main definitions

* `Scanner.scan`: A scanner after some bytes.
* `Scanner.Sees`: What a scanner has read, places aside.
* `padded`: A row as it is found when it was written.

## Theorems

* `Sees.scan_doubleQuotes`, `Sees.scan_bare`: Through the bytes of a field.
* `Sees.scan_writeField`, `Sees.scan_writeFields`, `Sees.scan_writeRecord`:
  Through fields and records.
* `fields_recordsFrom_writeRows`: The records of written rows.
* `records_of_not_mark`: Without a mark in front all bytes are scanned.
-/

namespace Worksheet

namespace Csv

variable {d : Dialect}

/-- A row with a blank in place of nothing. A record without fields is written
    like one with a single empty field, so this is how rows are read. -/
def padded {α : Type} (blank : α) (row : List α) : List α :=
  if row.isEmpty then [blank] else row

theorem map_padded {α β : Type} (f : α → β) (blank : α) (row : List α) :
    (padded blank row).map f = padded (f blank) (row.map f) := by
  cases row with
  | nil => rfl
  | cons x row => rfl

/-- Fields that are written as nothing are read as one empty field. -/
theorem padded_of_writeFields_eq_nil {fields : List (List UInt8)} (h : writeFields d fields = []) :
    padded [] fields = [[]] := by
  match fields with
  | [] => rfl
  | [field] =>
      rw [writeFields_singleton] at h
      rw [writeField_eq_nil h]
      rfl
  | first :: second :: rest =>
      rw [writeFields_cons_cons] at h
      exact absurd h (by simp only [List.append_eq_nil_iff, reduceCtorEq, and_false,
        not_false_eq_true])

namespace Scanner

/-- A scanner after some bytes. -/
def scan (d : Dialect) (s : Scanner) (bytes : List UInt8) : Scanner :=
  bytes.foldl (step d) s

theorem scan_nil (s : Scanner) : s.scan d [] = s :=
  rfl

theorem scan_cons (s : Scanner) (b : UInt8) (bytes : List UInt8) :
    s.scan d (b :: bytes) = (s.step d b).scan d bytes :=
  rfl

/-- Bytes are scanned piece by piece. -/
theorem scan_append (s : Scanner) (xs ys : List UInt8) :
    s.scan d (xs ++ ys) = (s.scan d xs).scan d ys := by
  rw [scan, List.foldl_append, scan, scan]

/-- What a scanner has read, places aside: its phase, its field and its fields,
    latest first, and the fields of its records, latest first. -/
structure Sees (s : Scanner) (p : Phase) (f : List UInt8) (fs : List (List UInt8))
    (rs : List (List (List UInt8))) : Prop where
  phase : s.phase = p
  field : s.field = f
  fields : s.fields = fs
  records : s.records.map Record.fields = rs

variable {s : Scanner} {p : Phase} {f : List UInt8} {fs : List (List UInt8)}
  {rs : List (List (List UInt8))}

/-- In front of the bytes nothing has been seen. -/
theorem sees_init (here : Position) : (init here).Sees .recordStart [] [] [] :=
  ⟨rfl, rfl, rfl, rfl⟩

theorem Sees.turn (h : s.Sees p f fs rs) (p' : Phase) :
    Sees { s with phase := p' } p' f fs rs :=
  ⟨rfl, h.field, h.fields, h.records⟩

theorem Sees.keep (h : s.Sees p f fs rs) (p' : Phase) (b : UInt8) :
    (s.keep p' b).Sees p' (b :: f) fs rs :=
  ⟨rfl, by rw [Scanner.keep, h.field], h.fields, h.records⟩

theorem Sees.endField (h : s.Sees p f fs rs) :
    s.endField.Sees .fieldStart [] (f.reverse :: fs) rs :=
  ⟨rfl, rfl, by rw [Scanner.endField, h.field, h.fields], h.records⟩

theorem Sees.endRecord (h : s.Sees p f fs rs) :
    s.endRecord.Sees .recordStart [] [] ((f.reverse :: fs).reverse :: rs) :=
  ⟨rfl, rfl, rfl, by rw [Scanner.endRecord, List.map_cons, h.field, h.fields, h.records]⟩

/-- Outside quotes a byte that is no quote means what it means in a plain
    field, except that line ends in front of a record are passed over. -/
theorem read_eq_plainByte {b : UInt8} (hb : b ≠ d.quote) (hp : s.phase ≠ .quoted)
    (hstart : s.phase = .recordStart → isLineEnd b = false) : read d s b = plainByte d s b := by
  have hquote : ¬ (b == d.quote) = true := fun h => hb (eq_of_beq h)
  unfold read
  split
  · next h => rw [hstart h, if_neg Bool.false_ne_true, firstByte, if_neg hquote]
  · rw [firstByte, if_neg hquote]
  · rfl
  · next h => exact absurd h hp
  · rw [if_neg hquote]

/-- Moving past a byte changes nothing that is seen, so what reading the byte
    does to every scanner that sees the same is what the step does. -/
theorem Sees.step_of_read (h : s.Sees p f fs rs) {b : UInt8} {p' : Phase} {f' : List UInt8}
    {fs' : List (List UInt8)} {rs' : List (List (List UInt8))}
    (hread : ∀ t : Scanner, t.Sees p f fs rs → (read d t b).Sees p' f' fs' rs') :
    (s.step d b).Sees p' f' fs' rs' :=
  hread _ ⟨h.phase, h.field, h.fields, h.records⟩

/-- Outside quotes the delimiter ends a field. -/
theorem Sees.step_delimiter (hd : d.Regular) (h : s.Sees p f fs rs) (hp : p ≠ .quoted) :
    (s.step d d.delimiter).Sees .fieldStart [] (f.reverse :: fs) rs := by
  refine h.step_of_read fun t ht => ?_
  rw [read_eq_plainByte hd.delimiter_ne_quote (by rw [ht.phase]; exact hp)
    (fun _ => hd.isLineEnd_delimiter), plainByte, if_pos (beq_self_eq_true _)]
  exact ht.endField

/-- Outside quotes a line end ends a record that has begun. -/
theorem Sees.step_lineEnd (hd : d.Regular) (h : s.Sees p f fs rs) (hp : p ≠ .quoted)
    (hstart : p ≠ .recordStart) {b : UInt8} (hb : isLineEnd b = true) :
    (s.step d b).Sees .recordStart [] [] ((f.reverse :: fs).reverse :: rs) := by
  -- A line end is neither the quote nor the delimiter, so it reaches the last case.
  have hquote : b ≠ d.quote := by
    rintro rfl
    exact absurd hb (by rw [hd.isLineEnd_quote]; exact Bool.false_ne_true)
  have hdelimiter : ¬ (b == d.delimiter) = true := by
    intro hc
    rw [eq_of_beq hc, hd.isLineEnd_delimiter] at hb
    exact Bool.false_ne_true hb
  refine h.step_of_read fun t ht => ?_
  rw [read_eq_plainByte hquote (by rw [ht.phase]; exact hp)
    (fun hc => absurd (ht.phase.symm.trans hc) hstart), plainByte, if_neg hdelimiter, if_pos hb]
  exact ht.endRecord

/-- A line end in front of a record is passed over. -/
theorem Sees.step_lineEnd_recordStart (h : s.Sees .recordStart f fs rs) {b : UInt8}
    (hb : isLineEnd b = true) : (s.step d b).Sees .recordStart f fs rs := by
  refine h.step_of_read fun t ht => ?_
  simp only [read, ht.phase, if_pos hb]
  exact ht

/-- Outside quotes a byte without a meaning belongs to the field. -/
theorem Sees.step_bare (h : s.Sees p f fs rs) (hp : p ≠ .quoted) {b : UInt8}
    (hb : b ≠ d.delimiter ∧ b ≠ d.quote ∧ isLineEnd b = false) :
    (s.step d b).Sees .plain (b :: f) fs rs := by
  refine h.step_of_read fun t ht => ?_
  rw [read_eq_plainByte hb.2.1 (by rw [ht.phase]; exact hp) (fun _ => hb.2.2), plainByte,
    if_neg (fun hc => hb.1 (eq_of_beq hc)), hb.2.2, if_neg Bool.false_ne_true]
  exact ht.keep .plain b

/-- A quote in front of a field opens a quoted part. -/
theorem Sees.step_open (hd : d.Regular) (h : s.Sees p f fs rs)
    (hp : p = .recordStart ∨ p = .fieldStart) : (s.step d d.quote).Sees .quoted f fs rs := by
  have hquote : (d.quote == d.quote) = true := beq_self_eq_true _
  refine h.step_of_read fun t ht => ?_
  rcases hp with rfl | rfl
  · simp only [read, ht.phase, hd.isLineEnd_quote, if_neg Bool.false_ne_true, firstByte,
      if_pos hquote]
    exact ht.turn .quoted
  · simp only [read, ht.phase, firstByte, if_pos hquote]
    exact ht.turn .quoted

/-- A quote inside quotes may be the last one. -/
theorem Sees.step_close (h : s.Sees .quoted f fs rs) :
    (s.step d d.quote).Sees .quoteSeen f fs rs := by
  refine h.step_of_read fun t ht => ?_
  simp only [read, ht.phase, if_pos (beq_self_eq_true d.quote)]
  exact ht.turn .quoteSeen

/-- A quote behind a quote is one that was doubled. -/
theorem Sees.step_reopen (h : s.Sees .quoteSeen f fs rs) :
    (s.step d d.quote).Sees .quoted (d.quote :: f) fs rs := by
  refine h.step_of_read fun t ht => ?_
  simp only [read, ht.phase, if_pos (beq_self_eq_true d.quote)]
  exact ht.keep .quoted d.quote

/-- Inside quotes any other byte belongs to the field. -/
theorem Sees.step_quoted (h : s.Sees .quoted f fs rs) {b : UInt8} (hb : b ≠ d.quote) :
    (s.step d b).Sees .quoted (b :: f) fs rs := by
  have hquote : ¬ (b == d.quote) = true := fun hc => hb (eq_of_beq hc)
  refine h.step_of_read fun t ht => ?_
  simp only [read, ht.phase, if_neg hquote]
  exact ht.keep .quoted b

/-- Inside quotes every byte can stand, and each doubled quote counts once. -/
theorem Sees.scan_doubleQuotes (bytes : List UInt8) : ∀ {s : Scanner} {f : List UInt8},
    s.Sees .quoted f fs rs →
      (s.scan d (doubleQuotes d bytes)).Sees .quoted (bytes.reverse ++ f) fs rs := by
  -- Between two bytes the scanner is back inside quotes, which carries the induction.
  induction bytes with
  | nil => intro s f h; exact h
  | cons b bytes ih =>
      intro s f h
      rw [doubleQuotes_cons, scan_append, List.reverse_cons, List.append_assoc]
      refine ih ?_
      by_cases hb : b = d.quote
      · -- The first of two quotes seems to close the field, and the second takes that back.
        subst hb
        rw [if_pos (beq_self_eq_true _), scan_cons, scan_cons, scan_nil]
        exact h.step_close.step_reopen
      · rw [if_neg (fun hc => hb (eq_of_beq hc)), scan_cons, scan_nil]
        exact h.step_quoted hb

/-- Bytes without a meaning are read as they are. -/
theorem Sees.scan_bare (bytes : List UInt8) (hbytes : needsQuotes d bytes = false) :
    ∀ {s : Scanner} {f : List UInt8}, s.Sees .plain f fs rs →
      (s.scan d bytes).Sees .plain (bytes.reverse ++ f) fs rs := by
  induction bytes with
  | nil => intro s f h; exact h
  | cons b bytes ih =>
      intro s f h
      rcases needsQuotes_cons_eq_false.mp hbytes with ⟨hb, hrest⟩
      rw [scan_cons, List.reverse_cons, List.append_assoc]
      exact ih hrest (h.step_bare (by simp only [ne_eq, reduceCtorEq, not_false_eq_true]) hb)

/-- A written field takes the scanner from in front of the field to its end.
    It stays in front of a record only if nothing was written there. -/
theorem Sees.scan_writeField (hd : d.Regular) (h : s.Sees p [] fs rs)
    (hp : p = .recordStart ∨ p = .fieldStart) (bytes : List UInt8) :
    ∃ p', (s.scan d (writeField d bytes)).Sees p' bytes.reverse fs rs ∧ p' ≠ .quoted ∧
      (p' = .recordStart → p = .recordStart ∧ writeField d bytes = []) := by
  by_cases hquotes : needsQuotes d bytes = true
  · refine ⟨.quoteSeen, ?_, by simp only [ne_eq, reduceCtorEq, not_false_eq_true],
      by simp only [reduceCtorEq, false_implies]⟩
    -- The quote in front opens, the bytes stay inside, and the quote behind closes.
    rw [writeField, if_pos hquotes, List.cons_append, scan_cons, scan_append]
    have hinside := Sees.scan_doubleQuotes (d := d) bytes (h.step_open hd hp)
    rw [List.append_nil] at hinside
    exact hinside.step_close
  · rw [writeField, if_neg hquotes]
    cases bytes with
    | nil =>
        -- Nothing was written, so the scanner is where it was.
        refine ⟨p, h, ?_, fun hstart => ⟨hstart, rfl⟩⟩
        rcases hp with rfl | rfl <;> simp only [ne_eq, reduceCtorEq, not_false_eq_true]
    | cons b bytes =>
        refine ⟨.plain, ?_, by simp only [ne_eq, reduceCtorEq, not_false_eq_true],
          by simp only [reduceCtorEq, false_implies]⟩
        rw [Bool.not_eq_true, needsQuotes_cons_eq_false] at hquotes
        rw [scan_cons, List.reverse_cons]
        refine Sees.scan_bare bytes hquotes.2 (h.step_bare ?_ hquotes.1)
        rcases hp with rfl | rfl <;> simp only [ne_eq, reduceCtorEq, not_false_eq_true]

/-- The written fields of a record take the scanner to the end of the last of
    them. -/
theorem Sees.scan_writeFields (hd : d.Regular) (rest : List (List UInt8)) :
    ∀ {s : Scanner} {p : Phase} {fs : List (List UInt8)} (first : List UInt8),
      s.Sees p [] fs rs → p = .recordStart ∨ p = .fieldStart →
      ∃ p' f' fs', (s.scan d (writeFields d (first :: rest))).Sees p' f' fs' rs ∧
        (f'.reverse :: fs').reverse = fs.reverse ++ first :: rest ∧ p' ≠ .quoted ∧
        (p' = .recordStart → p = .recordStart ∧ writeFields d (first :: rest) = []) := by
  -- The first field is read, and its delimiter leads in front of the second one.
  -- The phase in front is left open: only the very first field is in front of a record.
  induction rest with
  | nil =>
      intro s p fs first h hp
      rcases h.scan_writeField hd hp first with ⟨p', hs, hquoted, hstart⟩
      refine ⟨p', _, _, by rw [writeFields_singleton]; exact hs, ?_, hquoted, ?_⟩
      · rw [List.reverse_cons, List.reverse_reverse]
      · rw [writeFields_singleton]
        exact hstart
  | cons second rest ih =>
      intro s p fs first h hp
      rcases h.scan_writeField hd hp first with ⟨p', hs, hquoted, -⟩
      rcases ih second (hs.step_delimiter hd hquoted) (Or.inr rfl) with
        ⟨p'', f, fs', hs', hfields, hquoted', hstart⟩
      refine ⟨p'', f, fs', ?_, ?_, hquoted', ?_⟩
      · rw [writeFields_cons_cons, scan_append, scan_cons]
        exact hs'
      · rw [hfields, List.reverse_reverse, List.reverse_cons, List.append_assoc,
          List.singleton_append]
      · intro hc
        exact absurd (hstart hc).1 (by simp only [reduceCtorEq, not_false_eq_true])

/-- A line end behind a field ends the record. Of the two bytes of a long line
    end the second is passed over. -/
theorem Sees.scan_lineEnd (hd : d.Regular) (h : s.Sees p f fs rs) (hp : p ≠ .quoted)
    (hstart : p ≠ .recordStart) (e : LineEnd) :
    (s.scan d e.bytes).Sees .recordStart [] [] ((f.reverse :: fs).reverse :: rs) := by
  cases e with
  | lf => exact h.step_lineEnd hd hp hstart rfl
  | crlf => exact (h.step_lineEnd hd hp hstart rfl).step_lineEnd_recordStart rfl
  | cr => exact h.step_lineEnd hd hp hstart rfl

/-- A line end between records is passed over. -/
theorem Sees.scan_lineEnd_recordStart (h : s.Sees .recordStart f fs rs) (e : LineEnd) :
    (s.scan d e.bytes).Sees .recordStart f fs rs := by
  cases e with
  | lf => exact h.step_lineEnd_recordStart rfl
  | crlf => exact (h.step_lineEnd_recordStart rfl).step_lineEnd_recordStart rfl
  | cr => exact h.step_lineEnd_recordStart rfl

/-- A record without any byte is put in quotes, so it reads as one empty
    field. Every other record is read as it was written. -/
theorem Sees.scan_writeRecord (hd : d.Regular) (h : s.Sees .recordStart [] [] rs) (e : LineEnd)
    (fields : List (List UInt8)) :
    (s.scan d (writeRecord d e fields)).Sees .recordStart [] [] (padded [] fields :: rs) := by
  rw [writeRecord, scan_append]
  by_cases hempty : (writeFields d fields).isEmpty = true
  · -- The two quotes open a field and close it, and nothing was in between.
    have hpadded : padded [] fields = [[]] :=
      padded_of_writeFields_eq_nil (List.isEmpty_iff.mp hempty)
    rw [if_pos hempty, scan_cons, scan_cons, scan_nil, hpadded]
    exact (h.step_open hd (Or.inl rfl)).step_close.scan_lineEnd hd
      (by simp only [ne_eq, reduceCtorEq, not_false_eq_true])
      (by simp only [ne_eq, reduceCtorEq, not_false_eq_true]) e
  · rw [if_neg hempty]
    cases fields with
    | nil => exact absurd rfl hempty
    | cons first rest =>
        rcases h.scan_writeFields hd rest first (Or.inl rfl) with
          ⟨p', f, fs, hs, hfields, hquoted, hstart⟩
        have hend := hs.scan_lineEnd hd hquoted
          (fun hc => hempty (List.isEmpty_iff.mpr (hstart hc).2)) e
        rw [hfields] at hend
        exact hend

/-- The rows that were written are read one after the other. -/
theorem Sees.scan_writeRows (hd : d.Regular) (e : LineEnd) (rows : List (List String)) :
    ∀ {s : Scanner} {rs : List (List (List UInt8))}, s.Sees .recordStart [] [] rs →
      (s.scan d (writeRows d e rows)).Sees .recordStart [] []
        ((rows.map fun row => padded [] (row.map textBytes)).reverse ++ rs) := by
  -- Every record begins and ends in front of a record, so the records can be chained.
  induction rows with
  | nil => intro s rs h; exact h
  | cons row rows ih =>
      intro s rs h
      rw [writeRows_cons, scan_append, List.map_cons, List.reverse_cons, List.append_assoc]
      exact ih (h.scan_writeRecord hd e (row.map textBytes))

/-- Between records the end of the bytes adds nothing. -/
theorem Sees.finish (h : s.Sees .recordStart f fs rs) :
    s.finish.map Record.fields = rs.reverse := by
  simp only [Scanner.finish, h.phase, List.map_reverse, h.records]

end Scanner

/-- The records of written rows, wherever they begin. -/
theorem fields_recordsFrom_writeRows (hd : d.Regular) (e : LineEnd) (here : Position)
    (rows : List (List String)) :
    (recordsFrom d here (writeRows d e rows)).map Record.fields =
      rows.map fun row => padded [] (row.map textBytes) := by
  have h := ((Scanner.sees_init here).scan_writeRows hd e rows).finish
  rw [List.append_nil, List.reverse_reverse] at h
  exact h

/-- An empty line in front of written rows is no record. -/
theorem fields_recordsFrom_lineEnd (hd : d.Regular) (e : LineEnd) (here : Position)
    (rows : List (List String)) :
    (recordsFrom d here (e.bytes ++ writeRows d e rows)).map Record.fields =
      rows.map fun row => padded [] (row.map textBytes) := by
  have hline := Scanner.Sees.scan_lineEnd_recordStart (d := d) (Scanner.sees_init here) e
  have h := (hline.scan_writeRows hd e rows).finish
  rw [List.append_nil, List.reverse_reverse, ← Scanner.scan_append] at h
  exact h

/-- Without a mark in front all bytes are scanned from the very start. -/
theorem records_of_not_mark {bytes : List UInt8}
    (h : ∀ rest, bytes ≠ 0xEF :: 0xBB :: 0xBF :: rest) :
    records d bytes = recordsFrom d .origin bytes := by
  unfold records
  split
  · next rest => exact absurd rfl (h rest)
  · rfl

end Csv

end Worksheet
