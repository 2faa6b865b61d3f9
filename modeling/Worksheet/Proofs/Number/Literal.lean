import Mathlib.Tactic.SplitIfs
import Worksheet.Number.Literal
import Worksheet.Proofs.Text.Blank

/-!
# Texts without a Number

Why what begins like a formula is no number.

A literal begins with a digit, a sign or a point. Blanks around a text and
commas inside it are thrown away before it is read, but its first character
is neither, unless it is a comma itself, and so it is still in front of what
is read. A text that begins with an equals sign can therefore never be read
as a number, however it goes on.

A word that spells an infinity does not count as a number in the end, so it is
as good as no literal.

## Main definitions

* `Number.IsLead`: A character can begin a literal.

## Theorems

* `Number.literal?_eq`: Words are no literals.
* `Number.literal?_cons_eq_none`: What begins otherwise is no literal.
* `Number.ofChars?_eq_none`: Nor does it turn into one without its commas.
-/

namespace Worksheet

namespace Number

/-- The character can begin the literal of a number. -/
def IsLead (c : Char) : Prop :=
  c.isDigit = true ∨ c = '+' ∨ c = '-' ∨ c = '.'

instance (c : Char) : Decidable (IsLead c) :=
  inferInstanceAs (Decidable (_ ∨ _))

/-- A radix literal begins with a digit. -/
theorem radixLiteral?_cons_eq_none {c : Char} {cs : List Char} (h : ¬ IsLead c) :
    radixLiteral? (c :: cs) = none := by
  unfold radixLiteral?
  split
  · rename_i heq
    rw [List.cons.injEq] at heq
    exact absurd (Or.inl (by rw [heq.1]; decide)) h
  · rfl

/-- A decimal literal begins with a sign, a point or a digit. -/
theorem decimalLiteral?_cons_eq_none {c : Char} {cs : List Char} (h : ¬ IsLead c) :
    decimalLiteral? (c :: cs) = none := by
  simp only [IsLead, not_or, Bool.not_eq_true] at h
  rcases h with ⟨hdigit, hplus, hminus, hpoint⟩
  have hsign : splitSign (c :: cs) = (false, c :: cs) := by
    unfold splitSign
    split
    · rename_i heq
      exact absurd (List.cons.inj heq).1 hminus
    · rename_i heq
      exact absurd (List.cons.inj heq).1 hplus
    · rfl
  -- Neither a digit nor a point comes first, so no digits are found on either side of a point.
  simp only [decimalLiteral?, hsign, List.takeWhile_cons, List.dropWhile_cons, hdigit,
    Bool.false_eq_true, if_false, List.isEmpty_nil, Bool.true_and]
  split
  · rename_i heq
    exact absurd (List.cons.inj heq).1 hpoint
  · rfl

/-- What a word spells is not finite. -/
theorem isFinite_of_spelledLiteral? {cs : List Char} {x : Number}
    (h : spelledLiteral? cs = some x) : x.isFinite = false := by
  simp only [spelledLiteral?] at h
  split_ifs at h
  · rw [← Option.some.inj h]
    rfl
  · rw [← Option.some.inj h]
    rfl

/-- Words make no difference to which finite number is read. -/
theorem literal?_eq (cs : List Char) :
    literal? cs = (radixLiteral? cs <|> decimalLiteral? cs).filter isFinite := by
  rw [literal?]
  cases radixLiteral? cs with
  | some x => rfl
  | none =>
      cases decimalLiteral? cs with
      | some x => rfl
      | none =>
          cases hword : spelledLiteral? cs with
          | some x => exact Option.filter_some_neg (isFinite_of_spelledLiteral? hword)
          | none => rfl

/-- A text that begins with no sign, point or digit is not read as a number. -/
theorem literal?_cons_eq_none {c : Char} {cs : List Char} (h : ¬ IsLead c) :
    literal? (c :: cs) = none := by
  rw [literal?_eq, radixLiteral?_cons_eq_none h, decimalLiteral?_cons_eq_none h]
  rfl

/-- A text that begins with something else is no number, with or without its
    commas. -/
theorem ofChars?_eq_none {cs : List Char} {c : Char}
    (hc : (Text.trim Text.isBlank cs).head? = some c) (hcomma : c ≠ ',') (h : ¬ IsLead c) :
    ofChars? cs = none := by
  rcases List.head?_eq_some_iff.mp hc with ⟨rest, hrest⟩
  have hblank : Text.isBlank c = false := Text.isTrimmed_trim.1 c hc
  have hfilter : (c :: rest).filter (· != ',') = c :: rest.filter (· != ',') :=
    List.filter_cons_of_pos (bne_iff_ne.mpr hcomma)
  rcases @Text.exists_trim_cons _ (rest.filter (· != ',')) c hblank with ⟨cleaned, hcleaned, -⟩
  simp only [ofChars?, hrest, hfilter, hcleaned, List.isEmpty_cons, Bool.false_eq_true, if_false]
  exact literal?_cons_eq_none h

end Number

end Worksheet
