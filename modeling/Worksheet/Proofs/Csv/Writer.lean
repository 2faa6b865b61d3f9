import Mathlib.Data.List.Basic
import Worksheet.Csv.Writer
import Worksheet.Proofs.Text.Utf8

/-!
# The Bytes of Written Rows

How written rows are put together, and that they are a text.

The bytes of a row are those of its first field and, for every other one, a
delimiter in front of its own. Nothing that is written behind a field depends
on the field, which is what lets one field be exchanged for another.

Delimiter, quote and line ends are bytes of ASCII. Putting them between texts
leaves a text, and so does doubling quotes inside of one, since the bytes of
the characters outside ASCII are never touched.

## Main definitions

* `Dialect.Regular`: The delimiter and the quote can be told from each other,
  from line ends and from the bytes of characters outside ASCII.
* `writeBehind`: The bytes of the fields behind the first one.

## Theorems

* `decode?_textBytes`: The bytes of a text.
* `writeFields_cons`, `writeRows_cons`: Written rows, piece by piece.
* `isText_writeRows`: Written rows are a text.
-/

namespace Worksheet

namespace Csv

open Utf8 (IsText isText_nil isText_singleton)

/-- The delimiter and the quote are two bytes of ASCII that end no line. -/
structure Dialect.Regular (d : Dialect) : Prop where
  /-- The delimiter is in ASCII. -/
  delimiter_lt : d.delimiter.toNat < 128
  /-- The quote is in ASCII. -/
  quote_lt : d.quote.toNat < 128
  /-- They differ. -/
  delimiter_ne_quote : d.delimiter ≠ d.quote
  /-- The delimiter ends no line. -/
  delimiter_inside : d.delimiter ≠ lineFeed ∧ d.delimiter ≠ carriageReturn
  /-- The quote ends no line. -/
  quote_inside : d.quote ≠ lineFeed ∧ d.quote ≠ carriageReturn

instance (d : Dialect) : Decidable d.Regular :=
  decidable_of_iff (d.delimiter.toNat < 128 ∧ d.quote.toNat < 128 ∧ d.delimiter ≠ d.quote ∧
      (d.delimiter ≠ lineFeed ∧ d.delimiter ≠ carriageReturn) ∧
      d.quote ≠ lineFeed ∧ d.quote ≠ carriageReturn)
    ⟨fun ⟨h1, h2, h3, h4, h5⟩ => ⟨h1, h2, h3, h4, h5⟩,
      fun ⟨h1, h2, h3, h4, h5⟩ => ⟨h1, h2, h3, h4, h5⟩⟩

variable {d : Dialect}

/-- The bytes of a text are decoded as the text. -/
theorem decode?_textBytes (t : String) : Utf8.decode? (textBytes t) = some t.toList :=
  Utf8.decode?_encode t.toList

theorem isLineEnd_eq_false {b : UInt8} (h : b ≠ lineFeed ∧ b ≠ carriageReturn) :
    isLineEnd b = false := by
  simp only [isLineEnd, Bool.or_eq_false_iff, beq_eq_false_iff_ne, ne_eq]
  exact h

theorem Dialect.Regular.isLineEnd_delimiter (hd : d.Regular) : isLineEnd d.delimiter = false :=
  isLineEnd_eq_false hd.delimiter_inside

theorem Dialect.Regular.isLineEnd_quote (hd : d.Regular) : isLineEnd d.quote = false :=
  isLineEnd_eq_false hd.quote_inside

/-- A byte needs no quotes exactly when it is neither delimiter nor quote and
    ends no line. -/
theorem needsQuotes_cons_eq_false {b : UInt8} {bytes : List UInt8} :
    needsQuotes d (b :: bytes) = false ↔
      (b ≠ d.delimiter ∧ b ≠ d.quote ∧ isLineEnd b = false) ∧ needsQuotes d bytes = false := by
  simp only [needsQuotes, List.any_cons, Bool.or_eq_false_iff, beq_eq_false_iff_ne, ne_eq,
    and_assoc]

theorem doubleQuotes_cons (b : UInt8) (bytes : List UInt8) :
    doubleQuotes d (b :: bytes) = (if b == d.quote then [b, b] else [b]) ++ doubleQuotes d bytes := by
  rw [doubleQuotes, List.flatMap_cons, doubleQuotes]

theorem writeFields_singleton (field : List UInt8) :
    writeFields d [field] = writeField d field := by
  rw [writeFields, List.map_singleton, List.intercalate_singleton]

/-- Between two fields stands the delimiter. -/
theorem writeFields_cons_cons (first second : List UInt8) (rest : List (List UInt8)) :
    writeFields d (first :: second :: rest) =
      writeField d first ++ d.delimiter :: writeFields d (second :: rest) := by
  rw [writeFields, List.map_cons, List.map_cons, List.intercalate_cons_cons, writeFields,
    List.map_cons, List.append_assoc, List.singleton_append]

/-- The bytes of the fields of a record behind its first one. -/
def writeBehind (d : Dialect) (rest : List (List UInt8)) : List UInt8 :=
  rest.flatMap fun field => d.delimiter :: writeField d field

/-- What is written behind the first field does not depend on it. -/
theorem writeFields_cons (rest : List (List UInt8)) : ∀ first : List UInt8,
    writeFields d (first :: rest) = writeField d first ++ writeBehind d rest := by
  induction rest with
  | nil => intro first; rw [writeFields_singleton, writeBehind, List.flatMap_nil, List.append_nil]
  | cons second rest ih =>
      intro first
      have hbehind : writeBehind d (second :: rest) =
          (d.delimiter :: writeField d second) ++ writeBehind d rest := List.flatMap_cons
      rw [writeFields_cons_cons, ih second, hbehind, List.cons_append]

/-- Rows are written one after the other. -/
theorem writeRows_cons (e : LineEnd) (row : List String) (rows : List (List String)) :
    writeRows d e (row :: rows) = writeRecord d e (row.map textBytes) ++ writeRows d e rows := by
  rw [writeRows, List.flatMap_cons, writeRows]

/-- Only the empty field is written as nothing. -/
theorem writeField_eq_nil {bytes : List UInt8} (h : writeField d bytes = []) : bytes = [] := by
  -- A field that needs quotes is written with some bytes.
  by_cases hquotes : needsQuotes d bytes = true
  · rw [writeField, if_pos hquotes] at h
    exact absurd h (List.cons_ne_nil _ _)
  · rw [writeField, if_neg hquotes] at h
    exact h

theorem doubleQuotes_append (xs ys : List UInt8) :
    doubleQuotes d (xs ++ ys) = doubleQuotes d xs ++ doubleQuotes d ys := by
  rw [doubleQuotes, List.flatMap_append, doubleQuotes, doubleQuotes]

/-- Without a quote there is nothing to double. -/
theorem doubleQuotes_of_not_mem {bytes : List UInt8} (h : d.quote ∉ bytes) :
    doubleQuotes d bytes = bytes := by
  induction bytes with
  | nil => rfl
  | cons b bytes ih =>
      rw [List.mem_cons, not_or] at h
      rw [doubleQuotes_cons, if_neg (fun hc => h.1 (eq_of_beq hc).symm), ih h.2,
        List.singleton_append]

/-- Doubling quotes leaves a text. -/
theorem isText_doubleQuotes (hd : d.Regular) (cs : List Char) :
    IsText (doubleQuotes d (Utf8.encode cs)) := by
  induction cs with
  | nil => exact isText_nil
  | cons c cs ih =>
      rw [Utf8.encode_cons, doubleQuotes_append]
      refine IsText.append ?_ ih
      by_cases hc : c.val.toNat < 128
      · -- A character of ASCII is a single byte, which is written once or twice.
        have hbyte : IsText [UInt8.ofNat c.val.toNat] :=
          isText_singleton (by rw [Utf8.toNat_ofNat_of_lt (by omega)]; exact hc)
        rw [Utf8.encodeChar_of_lt hc, doubleQuotes, List.flatMap_singleton]
        split
        · exact hbyte.append hbyte
        · exact hbyte
      · -- The bytes of any other character are not in ASCII, so no quote is among them.
        have hquote : d.quote ∉ String.utf8EncodeChar c := by
          intro hmem
          have hle := Utf8.le_of_mem_encodeChar (by omega) hmem
          have hlt := hd.quote_lt
          omega
        rw [doubleQuotes_of_not_mem hquote]
        exact ⟨[c], by rw [Utf8.encode, List.flatMap_singleton]⟩

/-- A text is written as a text. -/
theorem isText_writeField (hd : d.Regular) {bytes : List UInt8} (h : IsText bytes) :
    IsText (writeField d bytes) := by
  by_cases hquotes : needsQuotes d bytes = true
  · rcases h with ⟨cs, rfl⟩
    have hquote := isText_singleton hd.quote_lt
    rw [writeField, if_pos hquotes, ← List.singleton_append]
    exact (hquote.append (isText_doubleQuotes hd cs)).append hquote
  · rw [writeField, if_neg hquotes]
    exact h

/-- Fields that are written side by side are a text. -/
theorem isText_writeFields (hd : d.Regular) (fields : List (List UInt8))
    (h : ∀ field ∈ fields, IsText field) : IsText (writeFields d fields) := by
  match fields with
  | [] => exact isText_nil
  | [field] =>
      rw [writeFields_singleton]
      exact isText_writeField hd (h field List.mem_cons_self)
  | first :: second :: rest =>
      rw [writeFields_cons_cons, ← List.singleton_append]
      exact (isText_writeField hd (h first List.mem_cons_self)).append
        ((isText_singleton hd.delimiter_lt).append
          (isText_writeFields hd (second :: rest) fun field hf =>
            h field (List.mem_cons_of_mem first hf)))

theorem isText_lineEnd (e : LineEnd) : IsText e.bytes := by
  cases e with
  | lf => exact ⟨['\n'], rfl⟩
  | crlf => exact ⟨['\r', '\n'], rfl⟩
  | cr => exact ⟨['\r'], rfl⟩

/-- A record that is written with its line end is a text. -/
theorem isText_writeRecord (hd : d.Regular) (e : LineEnd) (fields : List (List UInt8))
    (h : ∀ field ∈ fields, IsText field) : IsText (writeRecord d e fields) := by
  have hquote := isText_singleton hd.quote_lt
  rw [writeRecord]
  refine IsText.append ?_ (isText_lineEnd e)
  split
  · exact hquote.append hquote
  · exact isText_writeFields hd fields h

/-- Written rows are a text. -/
theorem isText_writeRows (hd : d.Regular) (e : LineEnd) (rows : List (List String)) :
    IsText (writeRows d e rows) := by
  refine Utf8.isText_flatMap rows fun row _ => isText_writeRecord hd e _ fun field hfield => ?_
  rcases List.mem_map.mp hfield with ⟨text, -, rfl⟩
  exact Utf8.isText_encode text.toList

end Csv

end Worksheet
