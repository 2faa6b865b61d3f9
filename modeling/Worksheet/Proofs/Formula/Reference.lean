import Worksheet.Formula.Reference
import Worksheet.Proofs.Attempt
import Worksheet.Proofs.Number.Digits
import Worksheet.Proofs.Text.Blank

/-!
# References as Written

Which texts name a cell or a range in a formula, said without a reader.

A reference is letters and then digits, with nothing around them. What the
letters and digits denote is a pair of numbers that may be of any size; the
reference keeps them as words, and the largest word stands for what does not
fit. A range is two such texts with a colon between them, and blanks on either
side of the colon.

Letters are no digits, so a text can be cut into the two parts in one way
only, and the reader, which takes the longest stretch of either, finds it.

## Main definitions

* `Column.IsNumeral`, `Numeral.IsDecimal`: Letters and digits, at least one.
* `Column.value`: The number of a column, however large.
* `Reference.ofParts`: The reference that letters and digits name.
* `Reference.Written`, `Corners.Written`: The texts of references and ranges.

## Theorems

* `Column.number?_eq_some_iff`: The texts that name a column.
* `Reference.split?_eq_some_iff`: What is read at the start of a text.
* `Reference.ofChars?_eq_some_iff`: A reader accepts exactly these texts.
* `Corners.ofChars?_eq_some_iff`: The same for ranges.
-/

namespace Worksheet

/-- The text is a numeral of column letters. -/
def Column.IsNumeral (cs : List Char) : Prop :=
  cs ≠ [] ∧ ∀ c ∈ cs, c.isAlpha = true

instance (cs : List Char) : Decidable (Column.IsNumeral cs) :=
  decidable_of_iff (cs ≠ [] ∧ cs.all Char.isAlpha = true)
    (by rw [Column.IsNumeral, List.all_eq_true])

/-- The number of the column that letters name, however large. -/
def Column.value (cs : List Char) : Nat :=
  Numeral.value 26 (cs.map letterValue)

/-- The text is a numeral of decimal digits. -/
def Numeral.IsDecimal (cs : List Char) : Prop :=
  cs ≠ [] ∧ ∀ c ∈ cs, c.isDigit = true

instance (cs : List Char) : Decidable (Numeral.IsDecimal cs) :=
  decidable_of_iff (cs ≠ [] ∧ cs.all Char.isDigit = true)
    (by rw [Numeral.IsDecimal, List.all_eq_true])

/-- A text has a column number exactly when it consists of letters, and the
    number is their saturated value. -/
theorem Column.number?_eq_some_iff {cs : List Char} {n : UInt64} :
    number? cs = some n ↔ IsNumeral cs ∧ Numeral.saturate (value cs) = n := by
  rw [number?, Numeral.saturated_eq_saturate_value (by decide), ← value]
  by_cases h : cs ≠ [] ∧ cs.all Char.isAlpha
  · rw [if_pos h, Option.some.injEq]
    exact ⟨fun heq => ⟨⟨h.1, List.all_eq_true.mp h.2⟩, heq⟩, fun heq => heq.2⟩
  · rw [if_neg h]
    refine ⟨fun hc => absurd hc (by simp only [reduceCtorEq, not_false_eq_true]), fun hc => ?_⟩
    exact absurd ⟨hc.1.1, List.all_eq_true.mpr hc.1.2⟩ h

namespace Reference

/-- The reference that letters and digits name. -/
def ofParts (letters digits : List Char) : Reference :=
  ⟨Numeral.saturate (Column.value letters), Numeral.saturate (Numeral.decimalValue digits)⟩

/-- The text names a reference: it is letters with digits behind them. -/
inductive Written : List Char → Reference → Prop where
  | intro {letters digits : List Char} (hletters : Column.IsNumeral letters)
      (hdigits : Numeral.IsDecimal digits) : Written (letters ++ digits) (ofParts letters digits)

/-- The rest must not begin with a digit, since the reader would have taken that
    digit as well. -/
theorem split?_eq_some_iff {cs rest : List Char} {r : Reference} :
    split? cs = some (r, rest) ↔ ∃ letters digits, cs = letters ++ (digits ++ rest) ∧
      Column.IsNumeral letters ∧ Numeral.IsDecimal digits ∧
      (∀ c ∈ rest.head?, c.isDigit = false) ∧ ofParts letters digits = r := by
  constructor
  · intro h
    simp only [split?] at h
    set letters := cs.takeWhile Char.isAlpha with hl
    set digits := (cs.dropWhile Char.isAlpha).takeWhile Char.isDigit with hd
    by_cases hempty : digits.isEmpty = true
    · rw [if_pos hempty] at h
      exact absurd h (by simp only [reduceCtorEq, not_false_eq_true])
    · rw [if_neg hempty, Option.map_eq_some_iff] at h
      rcases h with ⟨column, hcolumn, heq⟩
      rcases Column.number?_eq_some_iff.mp hcolumn with ⟨hletters, hvalue⟩
      rw [Prod.mk.injEq] at heq
      rcases heq with ⟨hr, hrest⟩
      have hcut := (Text.takeWhile_eq_and_dropWhile_eq_iff Char.isDigit _).mp ⟨hd.symm, hrest⟩
      refine ⟨letters, digits, ?_, hletters, ⟨?_, hcut.2.1⟩, hcut.2.2, ?_⟩
      · rw [← hcut.1, List.takeWhile_append_dropWhile]
      · exact fun hnil => hempty (List.isEmpty_iff.mpr hnil)
      · rw [← hr, ofParts, hvalue, Numeral.saturated_eq_saturate_value (by decide)]
        rfl
  · rintro ⟨letters, digits, rfl, hletters, hdigits, hrest, rfl⟩
    -- The letters end at the first digit, and the digits at the rest.
    have hstop : ∀ c ∈ (digits ++ rest).head?, c.isAlpha = false := by
      intro c hc
      cases digits with
      | nil => exact absurd rfl hdigits.1
      | cons d digits =>
          have hd := Text.isAlpha_eq_false_of_isDigit (hdigits.2 d List.mem_cons_self)
          exact Text.forall_head?_cons hd c hc
    have hcut := (Text.takeWhile_eq_and_dropWhile_eq_iff _ _).mpr ⟨rfl, hletters.2, hstop⟩
    have hcut' := (Text.takeWhile_eq_and_dropWhile_eq_iff _ _).mpr ⟨rfl, hdigits.2, hrest⟩
    have hcolumn := Column.number?_eq_some_iff.mpr ⟨hletters, rfl⟩
    have hne : digits.isEmpty = false := by
      rw [List.isEmpty_eq_false_iff]
      exact hdigits.1
    have hrow := Numeral.saturated_eq_saturate_value (by decide : 0 < 10)
      (digits.map Numeral.decimalDigit)
    simp only [split?, hcut.1, hcut.2, hcut'.1, hcut'.2, hne, hcolumn, hrow, Bool.false_eq_true,
      if_false, Option.map_some]
    rfl

/-- A reference has at least a letter and a digit. -/
theorem Written.ne_nil {cs : List Char} {r : Reference} (h : Written cs r) : cs ≠ [] := by
  rcases h with ⟨hletters, -⟩
  exact List.append_ne_nil_of_left_ne_nil hletters.1 _

/-- A reference consists of letters and digits. -/
theorem Written.isAlphanum {cs : List Char} {r : Reference} (h : Written cs r) :
    ∀ c ∈ cs, c.isAlphanum = true := by
  rcases h with ⟨hletters, hdigits⟩
  rw [List.forall_mem_append]
  exact ⟨fun c hc => Text.isAlphanum_of_isAlpha (hletters.2 c hc),
    fun c hc => Text.isAlphanum_of_isDigit (hdigits.2 c hc)⟩

theorem Written.isTrimmed {cs : List Char} {r : Reference} (h : Written cs r) :
    Text.IsTrimmed Text.isBlank cs :=
  Text.isTrimmed_of_forall fun c hc => Text.isBlank_eq_false_of_isAlphanum (h.isAlphanum c hc)

/-- The reader accepts what the grammar derives, with the same reference. -/
theorem ofChars?_eq_some_iff {cs : List Char} {r : Reference} :
    ofChars? cs = some r ↔ Written cs r := by
  constructor
  · intro h
    rw [ofChars?] at h
    split at h
    · rename_i r' hsplit
      rw [Option.some.injEq] at h
      rcases split?_eq_some_iff.mp hsplit with ⟨letters, digits, rfl, hletters, hdigits, -, rfl⟩
      rw [← h, List.append_nil]
      exact .intro hletters hdigits
    · exact absurd h (by simp only [reduceCtorEq, not_false_eq_true])
  · rintro ⟨hletters, hdigits⟩
    rename_i letters digits
    have hsplit : split? (letters ++ digits) = some (ofParts letters digits, []) := by
      refine split?_eq_some_iff.mpr ⟨letters, digits, ?_, hletters, hdigits, ?_, rfl⟩
      · rw [List.append_nil]
      · intro c hc
        exact absurd hc (by simp only [List.head?_nil, Option.mem_def, reduceCtorEq,
          not_false_eq_true])
    rw [ofChars?, hsplit]

end Reference

namespace Corners

/-- The text names a range: two references with a colon between them, and
    blanks on either side of it. -/
inductive Written : List Char → Corners → Prop where
  | intro {x before after y : List Char} {first second : Reference}
      (hfirst : Reference.Written x first) (hbefore : ∀ c ∈ before, Text.isBlank c = true)
      (hafter : ∀ c ∈ after, Text.isBlank c = true) (hsecond : Reference.Written y second) :
      Written (x ++ (before ++ ':' :: (after ++ y))) ⟨first, second⟩

theorem Written.isTrimmed {cs : List Char} {corners : Corners} (h : Written cs corners) :
    Text.IsTrimmed Text.isBlank cs := by
  rcases h with ⟨hfirst, -, -, hsecond⟩
  rename_i x before after y first second
  refine Text.isTrimmed_append hfirst.isTrimmed.1 hfirst.ne_nil ?_
    (List.append_ne_nil_of_right_ne_nil _ (List.cons_ne_nil _ _))
  rw [← List.cons_append, ← List.append_assoc, List.getLast?_append_of_ne_nil _ hsecond.ne_nil]
  exact hsecond.isTrimmed.2

theorem Written.ne_nil {cs : List Char} {corners : Corners} (h : Written cs corners) : cs ≠ [] := by
  rcases h with ⟨hfirst, -, -, -⟩
  exact List.append_ne_nil_of_left_ne_nil hfirst.ne_nil _

/-- No bracket stands in a pair of corners, so the bracket behind it closes the
    call. -/
theorem Written.closing_not_mem {cs : List Char} {corners : Corners} (h : Written cs corners) :
    ')' ∉ cs := by
  have hblank : Text.isBlank ')' ≠ true := by decide
  have halphanum : Char.isAlphanum ')' ≠ true := by decide
  rcases h with ⟨hfirst, hbefore, hafter, hsecond⟩
  intro hmem
  simp only [List.mem_append, List.mem_cons] at hmem
  rcases hmem with hmem | hmem | hmem | hmem | hmem
  · exact halphanum (hfirst.isAlphanum _ hmem)
  · exact hblank (hbefore _ hmem)
  · exact absurd hmem (by decide)
  · exact hblank (hafter _ hmem)
  · exact halphanum (hsecond.isAlphanum _ hmem)

/-- The reader of corners accepts what the grammar derives, with the same
    corners. -/
theorem ofChars?_eq_some_iff {cs : List Char} {corners : Corners} :
    ofChars? cs = some corners ↔ Written cs corners := by
  constructor
  · intro h
    rw [ofChars?] at h
    rcases Option.bind_eq_some_iff.mp h with ⟨⟨first, afterFirst⟩, hsplit, hrest⟩
    rcases Reference.split?_eq_some_iff.mp hsplit with
      ⟨letters, digits, rfl, hletters, hdigits, -, rfl⟩
    simp only [Text.trimLeft] at hrest
    split at hrest
    · rename_i afterColon hcolon
      rcases Option.bind_eq_some_iff.mp hrest with ⟨second, hsecond, heq⟩
      rw [← Option.some.inj heq]
      -- The blanks that were passed over stand on either side of the colon.
      have hbefore := (Text.takeWhile_eq_and_dropWhile_eq_iff Text.isBlank _).mp ⟨rfl, hcolon⟩
      have hafter := (Text.takeWhile_eq_and_dropWhile_eq_iff Text.isBlank afterColon).mp ⟨rfl, rfl⟩
      rw [hbefore.1, hafter.1, ← List.append_assoc]
      exact .intro (.intro hletters hdigits) hbefore.2.1 hafter.2.1
        (Reference.ofChars?_eq_some_iff.mp hsecond)
    · exact absurd hrest (by simp only [reduceCtorEq, not_false_eq_true])
  · rintro ⟨hfirst, hbefore, hafter, hsecond⟩
    rename_i x before after y first second
    rcases hfirst with ⟨hletters, hdigits⟩
    rename_i letters digits
    -- A blank or the colon ends the digits of the first reference.
    have hstop : ∀ c ∈ (before ++ ':' :: (after ++ y)).head?, c.isDigit = false := by
      intro c hc
      cases before with
      | nil => exact Text.forall_head?_cons (by decide) c hc
      | cons b before =>
          have hb := Text.isDigit_eq_false_of_isBlank (hbefore b List.mem_cons_self)
          exact Text.forall_head?_cons hb c hc
    have hsplit := Reference.split?_eq_some_iff.mpr
      ⟨letters, digits, rfl, hletters, hdigits, hstop, rfl⟩
    -- The colon ends the blanks in front of it, and a letter those behind it.
    have hcolon : (before ++ ':' :: (after ++ y)).dropWhile Text.isBlank = ':' :: (after ++ y) :=
      (Text.takeWhile_and_dropWhile_append_cons hbefore (by decide)).2
    have hletter := (Text.takeWhile_eq_and_dropWhile_eq_iff Text.isBlank _).mpr
      ⟨rfl, hafter, hsecond.isTrimmed.1⟩
    rw [ofChars?, List.append_assoc]
    refine Option.bind_eq_some_iff.mpr ⟨_, hsplit, ?_⟩
    simp only [Text.trimLeft, hcolon]
    refine Option.bind_eq_some_iff.mpr ⟨second, ?_, rfl⟩
    rw [hletter.2]
    exact Reference.ofChars?_eq_some_iff.mpr hsecond

theorem ofChars?_eq_none_iff {cs : List Char} :
    ofChars? cs = none ↔ ∀ corners, ¬ Written cs corners :=
  Attempt.eq_none_iff_of_eq_some_iff fun _ => ofChars?_eq_some_iff

end Corners

end Worksheet
