import Worksheet.Proofs.Address.Notation

/-!
# Reading and Printing Addresses

That reading an address and printing it undo each other, as far as they can.

Printing is undone by reading for every cell within the limits. Reading is
undone by printing only up to what a reader passes over: white space around the
address, marks, the case of letters, and zeros in front of the row. Taking all
of that away from a text that names a cell leaves one text for the cell, and
that is the one that is printed. It is said here without the cell, on the
characters of the text alone.

Both parts of an address come back from their numbers, letters as capitals and
digits without zeros in front, since every number has one numeral of either
kind.

## Main definitions

* `Address.canonical`: The text that is left of the name of a cell.

## Theorems

* `Address.Written.a1Chars_eq`: It is the text that is printed.
* `Address.written_iff_parts`: The names of cells, part by part.
* `Address.ofA1_and_a1`: Reading and printing undo each other.
-/

namespace Worksheet

namespace Address

/-- The text without marks, with its letters as capitals and without the zeros
    in front of its digits. -/
def canonical (cs : List Char) : List Char :=
  let bare := cs.filter (· != '$')
  (bare.takeWhile Char.isAlpha).map Char.toUpper ++
    (bare.dropWhile Char.isAlpha).dropWhile (· == '0')

theorem IsMark.filter_eq_nil {mark : List Char} (h : IsMark mark) :
    mark.filter (· != '$') = [] := by
  rcases h with rfl | rfl
  · rfl
  · rfl

theorem filter_mark_of_isAlphanum {cs : List Char} (h : ∀ c ∈ cs, c.isAlphanum = true) :
    cs.filter (· != '$') = cs := by
  refine List.filter_eq_self.mpr fun c hc => ?_
  rw [bne_iff_ne]
  rintro rfl
  exact absurd (h '$' hc) (by decide)

/-- What is printed for a cell is what is left of any text that names it. -/
theorem Written.a1Chars_eq {cs : List Char} {a : Address} (h : Written cs a) :
    a.a1Chars = canonical cs := by
  rcases h with ⟨hmark, hmark', hletters, hdigits, -, hcol, hrow⟩
  rename_i mark mark' letters digits
  have hbare : (mark ++ (letters ++ (mark' ++ digits))).filter (· != '$') = letters ++ digits := by
    rw [List.filter_append, List.filter_append, List.filter_append, hmark.filter_eq_nil,
      hmark'.filter_eq_nil,
      filter_mark_of_isAlphanum fun c hc => Text.isAlphanum_of_isAlpha (hletters.2 c hc),
      filter_mark_of_isAlphanum fun c hc => Text.isAlphanum_of_isDigit (hdigits.2 c hc)]
    rfl
  have hcut := (Text.takeWhile_eq_and_dropWhile_eq_iff Char.isAlpha (letters ++ digits)).mpr
    ⟨rfl, hletters.2, fun c hc =>
      Text.isAlpha_eq_false_of_isDigit (hdigits.2 c (List.mem_of_mem_head? hc))⟩
  have hpos : 0 < Numeral.decimalValue digits := by omega
  rw [canonical, hbare, hcut.1, hcut.2, ← Column.numeral_value hletters.2,
    ← Numeral.toDigits_decimalValue hdigits.2 hpos, hcol, hrow]
  rfl

/-- A text names a cell when it consists of letters and digits, with or without
    marks in front of them, whose numbers are between one and the limits, and
    the cell is the one these numbers count from one. -/
theorem written_iff_parts {cs : List Char} {a : Address} :
    Written cs a ↔ ∃ mark letters mark' digits, cs = mark ++ (letters ++ (mark' ++ digits)) ∧
      IsMark mark ∧ Column.IsNumeral letters ∧ IsMark mark' ∧ Numeral.IsDecimal digits ∧
      (1 ≤ Column.value letters ∧ Column.value letters ≤ maxCols.toNat) ∧
      (1 ≤ Numeral.decimalValue digits ∧ Numeral.decimalValue digits ≤ maxRows.toNat) ∧
      a = ⟨UInt32.ofNat (Numeral.decimalValue digits - 1),
        UInt32.ofNat (Column.value letters - 1)⟩ := by
  constructor
  · rintro ⟨hmark, hmark', hletters, hdigits, ha, hcol, hrow⟩
    rename_i mark mark' letters digits
    have hrowlt := UInt32.lt_iff_toNat_lt.mp ha.1
    have hcollt := UInt32.lt_iff_toNat_lt.mp ha.2
    refine ⟨mark, letters, mark', digits, rfl, hmark, hletters, hmark', hdigits, by omega,
      by omega, ?_⟩
    rw [hcol, hrow, Nat.add_sub_cancel, Nat.add_sub_cancel, UInt32.ofNat_toNat, UInt32.ofNat_toNat]
  · -- Within the limits both indices fit their words.
    rintro ⟨mark, letters, mark', digits, rfl, hmark, hletters, hmark', hdigits, hcol, hrow, rfl⟩
    have hcolword := @Word.toNat_ofNat_of_lt (Column.value letters - 1) maxCols (by omega)
    have hrowword := @Word.toNat_ofNat_of_lt (Numeral.decimalValue digits - 1) maxRows (by omega)
    refine .intro hmark hmark' hletters hdigits ⟨?_, ?_⟩ ?_ ?_
    · rw [UInt32.lt_iff_toNat_lt, hrowword]
      omega
    · rw [UInt32.lt_iff_toNat_lt, hcolword]
      omega
    · rw [hcolword]
      omega
    · rw [hrowword]
      omega

/-- A text is read as a cell exactly when, without the white space around it, it
    is letters and digits of numbers within the limits; a printed cell is read
    back; and a text that is read is printed again as what is left of it
    without white space, marks, small letters and zeros in front. -/
theorem ofA1_and_a1 (text : String) (a : Address) :
    (ofA1 text = .ok a ↔ ∃ mark letters mark' digits,
      Text.trim Text.isWhite text.toList = mark ++ (letters ++ (mark' ++ digits)) ∧
      IsMark mark ∧ Column.IsNumeral letters ∧ IsMark mark' ∧ Numeral.IsDecimal digits ∧
      (1 ≤ Column.value letters ∧ Column.value letters ≤ maxCols.toNat) ∧
      (1 ≤ Numeral.decimalValue digits ∧ Numeral.decimalValue digits ≤ maxRows.toNat) ∧
      a = ⟨UInt32.ofNat (Numeral.decimalValue digits - 1),
        UInt32.ofNat (Column.value letters - 1)⟩) ∧
    (a.InLimits → ofA1 a.a1 = .ok a) ∧
    (ofA1 text = .ok a →
      a.a1 = String.ofList (canonical (Text.trim Text.isWhite text.toList))) := by
  refine ⟨?_, ofA1_a1, fun hread => ?_⟩
  · rw [ofA1_eq_ok_iff, written_iff_parts]
  · rw [a1, (ofA1_eq_ok_iff.mp hread).a1Chars_eq]

/-- The last cell there is, with white space, marks, a small letter and zeros
    in its name. -/
theorem ofA1_and_a1_last :
    ofA1 "\u2003$xFd$0001048576\u00A0\n" = .ok ⟨1048575, 16383⟩ ∧
      InLimits ⟨1048575, 16383⟩ ∧ ofA1 (a1 ⟨1048575, 16383⟩) = .ok ⟨1048575, 16383⟩ ∧
      a1 ⟨1048575, 16383⟩ = "XFD1048576" := by
  have hread : ofA1 "\u2003$xFd$0001048576\u00A0\n" = .ok ⟨1048575, 16383⟩ := by decide
  have hlimits : InLimits ⟨1048575, 16383⟩ := by decide
  rcases ofA1_and_a1 "\u2003$xFd$0001048576\u00A0\n" ⟨1048575, 16383⟩ with ⟨-, hback, hprinted⟩
  refine ⟨hread, hlimits, hback hlimits, ?_⟩
  rw [hprinted hread]
  decide

end Address

end Worksheet
