import Worksheet.Proofs.Address.Column
import Worksheet.Proofs.Attempt

/-!
# Addresses as Written

Which texts name a cell in A1 notation, and that printing finds one of them.

A text that names a cell is letters and digits, with a `$` allowed in front of
either, and the numbers they denote are those of the cell counted from one.
The reader goes from left to right and has an error for every way in which a
text can fail to be of that form. What it accepts is the form and nothing
else, whatever the letters or digits in front: leading zeros do not matter,
and neither does the case of the letters.

The printed form is the one without marks and without leading zeros. It is
read as the cell it was printed for, so no two cells are printed alike.

## Main definitions

* `Address.IsMark`: Nothing, or a single `$`.
* `Address.Written`: The texts that name a cell, white space aside.

## Theorems

* `ofTrimmed_eq_ok_iff`, `ofA1_eq_ok_iff`: Exactly these texts are read.
* `ofA1_a1`: A printed address is read back.
* `a1_inj`: Different cells are printed differently.
-/

namespace Worksheet

namespace Address

/-- Nothing, or the mark in front of letters or digits. -/
def IsMark (cs : List Char) : Prop :=
  cs = [] ∨ cs = ['$']

/-- The text names a cell: letters and digits that denote its place counted
    from one, with or without marks in front of them. -/
inductive Written : List Char → Address → Prop where
  | intro {mark mark' letters digits : List Char} {a : Address} (hmark : IsMark mark)
      (hmark' : IsMark mark') (hletters : Column.IsNumeral letters)
      (hdigits : Numeral.IsDecimal digits) (ha : a.InLimits)
      (hcol : Column.value letters = a.col.toNat + 1)
      (hrow : Numeral.decimalValue digits = a.row.toNat + 1) :
      Written (mark ++ (letters ++ (mark' ++ digits))) a

/-- A text is cut behind the mark it begins with, if there is one. -/
theorem exists_isMark (cs : List Char) : ∃ mark, IsMark mark ∧ cs = mark ++ dropMark cs := by
  unfold dropMark
  split
  · exact ⟨['$'], .inr rfl, rfl⟩
  · exact ⟨[], .inl rfl, rfl⟩

/-- A mark in front of letters and digits is dropped, and nothing else. -/
theorem dropMark_append {mark cs : List Char} (hmark : IsMark mark)
    (h : ∀ c ∈ cs.head?, c.isAlphanum = true) : dropMark (mark ++ cs) = cs := by
  rcases hmark with rfl | rfl
  · -- A letter or a digit in front is no mark.
    rw [List.nil_append]
    unfold dropMark
    split
    · exact absurd (h '$' rfl) (by decide)
    · rfl
  · rfl

/-- Digits name the row one below their value, when there is one. -/
theorem rowOfDigits_eq_ok_iff {text : String} {digits : List Char} {row : UInt32} :
    rowOfDigits text digits = .ok row ↔
      Numeral.decimalValue digits = row.toNat + 1 ∧ row < maxRows := by
  have hsize : UInt64.size = 18446744073709551616 := rfl
  have hmax : maxRows.toNat = 1048576 := rfl
  simp only [rowOfDigits, UInt32.lt_iff_toNat_lt]
  generalize Numeral.decimalValue digits = n
  -- Every number outside the limit has its error.
  split_ifs with hlarge hzero hle
  · rw [false_iff]
    omega
  · rw [false_iff]
    omega
  · have hword : (UInt32.ofNat (n - 1)).toNat = n - 1 :=
      @Word.toNat_ofNat_of_lt (n - 1) maxRows (by omega)
    rw [Except.ok.injEq, ← UInt32.toNat_inj, hword]
    omega
  · rw [false_iff]
    omega

/-- The parts that the reader cuts off one after the other are those of the
    form. -/
theorem written_of_ofTrimmed {cs : List Char} {a : Address} (h : ofTrimmed cs = .ok a) :
    Written cs a := by
  rcases exists_isMark cs with ⟨mark, hmark, hcs⟩
  rcases exists_isMark ((dropMark cs).dropWhile Char.isAlpha) with ⟨mark', hmark', hrest⟩
  have hcut := (Text.takeWhile_eq_and_dropWhile_eq_iff Char.isAlpha (dropMark cs)).mp ⟨rfl, rfl⟩
  simp only [ofTrimmed] at h
  generalize (dropMark cs).takeWhile Char.isAlpha = letters at h hcut
  generalize dropMark ((dropMark cs).dropWhile Char.isAlpha) = digits at h hrest
  -- Past all the tests that refuse a text, its parts are what the grammar asks for.
  by_cases hempty : cs.isEmpty = true
  · simp only [if_pos hempty, reduceCtorEq] at h
  by_cases hletters : letters.isEmpty = true
  · simp only [if_neg hempty, if_pos hletters, reduceCtorEq] at h
  rw [if_neg hempty, if_neg hletters] at h
  rcases Attempt.bind_eq_ok_iff.mp h with ⟨col, hcol, hafter⟩
  by_cases hdigits : digits.isEmpty = true
  · simp only [if_pos hdigits, reduceCtorEq] at hafter
  by_cases hall : digits.all Char.isDigit = true
  · rw [if_neg hdigits, if_pos hall] at hafter
    rcases Attempt.bind_eq_ok_iff.mp hafter with ⟨row, hrow, hplace⟩
    rw [Except.ok.injEq] at hplace
    rcases Column.ofLetters_eq_ok_iff.mp hcol with ⟨hnumeral, hvalue, hcollt⟩
    rcases rowOfDigits_eq_ok_iff.mp hrow with ⟨hvalue', hrowlt⟩
    rw [hcs, hcut.1, hrest, ← hplace]
    exact .intro hmark hmark' hnumeral
      ⟨fun hnil => hdigits (List.isEmpty_iff.mpr hnil), List.all_eq_true.mp hall⟩
      ⟨hrowlt, hcollt⟩ hvalue hvalue'
  · simp only [if_neg hdigits, if_neg hall, reduceCtorEq] at hafter

/-- A written address is read as the address. -/
theorem ofTrimmed_of_written {cs : List Char} {a : Address} (h : Written cs a) :
    ofTrimmed cs = .ok a := by
  rcases h with ⟨hmark, hmark', hletters, hdigits, ha, hcol, hrow⟩
  rename_i mark mark' letters digits
  -- A letter is in front behind the first mark, a digit behind the second.
  have hbody : dropMark (mark ++ (letters ++ (mark' ++ digits))) = letters ++ (mark' ++ digits) := by
    refine dropMark_append hmark fun c hc => ?_
    rw [List.head?_append_of_ne_nil _ hletters.1] at hc
    exact Text.isAlphanum_of_isAlpha (hletters.2 c (List.mem_of_mem_head? hc))
  have hback : dropMark (mark' ++ digits) = digits := by
    refine dropMark_append hmark' fun c hc => ?_
    exact Text.isAlphanum_of_isDigit (hdigits.2 c (List.mem_of_mem_head? hc))
  have hstop : ∀ c ∈ (mark' ++ digits).head?, c.isAlpha = false := by
    intro c hc
    rcases hmark' with rfl | rfl
    · exact Text.isAlpha_eq_false_of_isDigit (hdigits.2 c (List.mem_of_mem_head? hc))
    · exact Text.forall_head?_cons (by decide) c hc
  have hcut := (Text.takeWhile_eq_and_dropWhile_eq_iff _ _).mpr ⟨rfl, hletters.2, hstop⟩
  have hempty : (mark ++ (letters ++ (mark' ++ digits))).isEmpty = false := by
    simp only [List.isEmpty_eq_false_iff, ne_eq, List.append_eq_nil_iff, hletters.1, false_and,
      and_false, not_false_eq_true]
  have hcolumn := Column.ofLetters_eq_ok_iff.mpr ⟨hletters, hcol, ha.2⟩
  have hline := fun text => (@rowOfDigits_eq_ok_iff text digits a.row).mpr ⟨hrow, ha.1⟩
  simp only [ofTrimmed, hbody, hcut.1, hcut.2, hback, hempty, Bool.false_eq_true, if_false,
    List.isEmpty_eq_false_iff.mpr hletters.1, List.isEmpty_eq_false_iff.mpr hdigits.1,
    List.all_eq_true.mpr hdigits.2, if_true, hcolumn, hline]
  rfl

/-- The characters that are read as an address are those that name a cell. -/
theorem ofTrimmed_eq_ok_iff {cs : List Char} {a : Address} :
    ofTrimmed cs = .ok a ↔ Written cs a :=
  ⟨written_of_ofTrimmed, ofTrimmed_of_written⟩

/-- The texts that are read as an address, white space aside. -/
theorem ofA1_eq_ok_iff {text : String} {a : Address} :
    ofA1 text = .ok a ↔ Written (Text.trim Text.isWhite text.toList) a :=
  ofTrimmed_eq_ok_iff

/-- Only addresses within the limits are written. -/
theorem Written.inLimits {cs : List Char} {a : Address} (h : Written cs a) : a.InLimits := by
  rcases h with ⟨-, -, -, -, ha, -, -⟩
  exact ha

/-- A written address consists of letters, digits and marks. -/
theorem Written.mem {cs : List Char} {a : Address} (h : Written cs a) {c : Char} (hc : c ∈ cs) :
    c.isAlphanum = true ∨ c = '$' := by
  rcases h with ⟨hmark, hmark', hletters, hdigits, -, -, -⟩
  have hsign : ∀ {mark : List Char}, IsMark mark → c ∈ mark → c = '$' := by
    rintro mark (rfl | rfl) hc
    · exact absurd hc List.not_mem_nil
    · exact List.mem_singleton.mp hc
  simp only [List.mem_append] at hc
  rcases hc with hc | hc | hc | hc
  · exact .inr (hsign hmark hc)
  · exact .inl (Text.isAlphanum_of_isAlpha (hletters.2 c hc))
  · exact .inr (hsign hmark' hc)
  · exact .inl (Text.isAlphanum_of_isDigit (hdigits.2 c hc))

/-- It has no white space at its ends. -/
theorem Written.isTrimmed {cs : List Char} {a : Address} (h : Written cs a) :
    Text.IsTrimmed Text.isWhite cs := by
  refine Text.isTrimmed_of_forall fun c hc => ?_
  rcases h.mem hc with halphanum | rfl
  · exact Text.isWhite_eq_false_of_isAlphanum halphanum
  · decide

theorem written_a1Chars {a : Address} (ha : a.InLimits) : Written a.a1Chars a := by
  have hdigits : Numeral.IsDecimal (Nat.toDigits 10 (a.row.toNat + 1)) :=
    ⟨Nat.toDigits_ne_nil, fun c hc => Nat.isDigit_of_mem_toDigits (by decide) (by decide) hc⟩
  exact .intro (.inl rfl) (.inl rfl) (Column.isNumeral_numeral _) hdigits ha
    (Column.value_numeral _) (Numeral.decimalValue_toDigits _)

/-- A printed address is read back. -/
theorem ofA1_a1 {a : Address} (ha : a.InLimits) : ofA1 a.a1 = .ok a := by
  have hwritten := written_a1Chars ha
  rw [ofA1_eq_ok_iff, a1, String.toList_ofList, hwritten.isTrimmed.trim_eq_self]
  exact hwritten

/-- Different cells are printed differently. -/
theorem a1_inj {a b : Address} (ha : a.InLimits) (hb : b.InLimits) : a.a1 = b.a1 ↔ a = b := by
  constructor
  · intro h
    have hread := ofA1_a1 ha
    rw [h, ofA1_a1 hb, Except.ok.injEq] at hread
    exact hread.symm
  · rintro rfl
    rfl

end Address

end Worksheet
