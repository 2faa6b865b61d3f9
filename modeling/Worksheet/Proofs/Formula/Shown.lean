import Worksheet.Proofs.Formula.Grammar
import Worksheet.Proofs.Number.Literal
import Worksheet.Proofs.Number.Notation
import Worksheet.Sheet.Display

/-!
# What Is Shown

What can be shown for a text, and that it is as good as a literal.

A text that does not start like a formula is shown as it is. A formula is
worth a number or a fault, never a text, and what is shown for either is
written in characters that are no blanks, the first of which is no equals
sign. So nothing that is shown is a formula in its turn, whatever the grid,
and nothing but the empty text is shown as nothing.

## Theorems

* `Grid.value_of_not_formula`: A text that is no formula is its own value.
* `Grid.value_of_formula`: A formula is worth a number or a fault.
* `Grid.shown_cases`: What is shown for a text.
* `Grid.isFormulaText_shown`: What is shown is no formula.
* `Grid.shown_eq_empty_iff`: Nothing is shown only for the empty text.
* `Grid.shown_shown`: Showing what is shown changes nothing.
-/

namespace Worksheet

/-- A character in front of a number is one that numbers are written in. -/
theorem Number.head?_text_ne (x : Number) {c : Char} (h : ¬ IsNotation c) :
    x.text.toList.head? ≠ some c := by
  intro hc
  rw [text, String.toList_ofList] at hc
  exact h (isNotation_chars x c (List.mem_of_mem_head? hc))

/-- No printed number is a formula. -/
theorem isFormulaText_number (x : Number) : isFormulaText x.text = false := by
  have hhead := x.head?_text_ne (by decide : ¬ Number.IsNotation '=')
  rw [Number.text, String.toList_ofList] at hhead
  rw [isFormulaText, beq_eq_false_iff_ne, Number.text, String.toList_ofList, x.trim_chars]
  exact hhead

/-- No number begins with an equals sign. -/
theorem ofText?_of_isFormulaText {text : String} (h : isFormulaText text = true) :
    Number.ofText? text = none := by
  rw [isFormulaText, beq_iff_eq] at h
  exact Number.ofChars?_eq_none h (by decide) (by decide)

/-- No label of a fault is a formula. -/
theorem isFormulaText_label (f : Fault) : isFormulaText f.label = false := by
  cases f <;> decide

namespace Grid

variable {text : String}

/-- A text that is no formula is its own value. -/
theorem value_of_not_formula (g : Grid) (h : isFormulaText text = false) :
    g.value text = .text text := by
  rw [isFormulaText, beq_eq_false_iff_ne] at h
  rw [value, Formula.ofText_of_head?_ne h]
  rfl

/-- A formula is worth a number or a fault. -/
theorem value_of_formula (g : Grid) (h : isFormulaText text = true) :
    (∃ x, g.value text = .number x) ∨ ∃ f, g.value text = .fault f := by
  rw [isFormulaText, beq_iff_eq] at h
  rcases List.head?_eq_some_iff.mp h with ⟨rest, hrest⟩
  have hbody := (Formula.ofBody_eq_iff_written (@Text.isTrimmed_trim Text.isBlank rest)).mp rfl
  rw [← Formula.ofText_of_equals hrest] at hbody
  rw [value]
  -- Behind the equals sign there is no literal, and nothing else is worth a text.
  generalize Formula.ofText text = r at hbody
  cases hbody with
  | aggregate => exact .inl ⟨_, rfl⟩
  | number => exact .inl ⟨_, rfl⟩
  | @binary i op left right =>
      simp only [valueOf]
      generalize g.number left = x
      generalize g.number right = y
      cases op with
      | add => exact .inl ⟨_, rfl⟩
      | sub => exact .inl ⟨_, rfl⟩
      | mul => exact .inl ⟨_, rfl⟩
      | div =>
          simp only [Operator.apply]
          split_ifs
          · exact .inr ⟨_, rfl⟩
          · exact .inl ⟨_, rfl⟩
  | malformedRange => exact .inr ⟨_, rfl⟩
  | empty => exact .inr ⟨_, rfl⟩
  | unknownFunction => exact .inr ⟨_, rfl⟩
  | unrecognized => exact .inr ⟨_, rfl⟩

/-- A text is shown as it is, as a number or as the label of a fault. -/
theorem shown_cases (g : Grid) (text : String) :
    (isFormulaText text = false ∧ g.shown text = text) ∨
      (∃ x : Number, g.shown text = x.text) ∨ ∃ f : Fault, g.shown text = f.label := by
  unfold shown
  cases h : isFormulaText text with
  | false =>
      rw [g.value_of_not_formula h]
      exact .inl ⟨rfl, rfl⟩
  | true =>
      rcases g.value_of_formula h with ⟨x, hx⟩ | ⟨f, hf⟩
      · rw [hx]
        exact .inr (.inl ⟨x, rfl⟩)
      · rw [hf]
        exact .inr (.inr ⟨f, rfl⟩)

/-- What is shown is no formula. -/
theorem isFormulaText_shown (g : Grid) (text : String) : isFormulaText (g.shown text) = false := by
  rcases g.shown_cases text with ⟨hliteral, hshown⟩ | ⟨x, hshown⟩ | ⟨f, hshown⟩
  · rw [hshown, hliteral]
  · rw [hshown, isFormulaText_number]
  · rw [hshown, isFormulaText_label]

/-- A text that is no formula is shown as it is. -/
theorem shown_of_not_formula (g : Grid) (h : isFormulaText text = false) :
    g.shown text = text := by
  rw [shown, g.value_of_not_formula h]
  rfl

/-- Nothing is shown only for the empty text. -/
theorem shown_eq_empty_iff (g : Grid) : g.shown text = "" ↔ text = "" := by
  constructor
  · intro h
    rcases g.shown_cases text with ⟨-, hshown⟩ | ⟨x, hshown⟩ | ⟨f, hshown⟩
    · exact hshown ▸ h
    · rw [hshown] at h
      have hchars : x.text.toList = x.chars := String.toList_ofList
      rw [h, String.toList_empty] at hchars
      exact absurd hchars.symm x.chars_ne_nil
    · rw [hshown] at h
      cases f <;> exact absurd h (by decide)
  · rintro rfl
    exact g.shown_of_not_formula (by decide)

/-- A shown text whose first character is none of a number or a fault begins as
    the text does. -/
theorem head?_of_head?_shown (g : Grid) {c : Char} (hother : ¬ Number.IsNotation c)
    (hlabel : c ≠ '#') (h : (g.shown text).toList.head? = some c) :
    text.toList.head? = some c := by
  rcases g.shown_cases text with ⟨-, hshown⟩ | ⟨x, hshown⟩ | ⟨f, hshown⟩
  · rwa [hshown] at h
  · rw [hshown] at h
    exact absurd h (x.head?_text_ne hother)
  · rw [hshown] at h
    have hhead : f.label.toList.head? = some '#' := by
      cases f <;> decide
    rw [hhead, Option.some.injEq] at h
    exact absurd h.symm hlabel

/-- What is shown is shown as it is when it is the text of a cell in its turn,
    on whatever grid: it is read as a literal and never as a formula, and it is
    the empty text only for the empty text. -/
theorem shown_shown (g h : Grid) (text : String) :
    h.shown (g.shown text) = g.shown text ∧
      Formula.ofText (g.shown text) = .ok (.literal (g.shown text)) ∧
      (g.shown text = "" ↔ text = "") := by
  have hliteral := g.isFormulaText_shown text
  refine ⟨h.shown_of_not_formula hliteral, ?_, g.shown_eq_empty_iff⟩
  rw [isFormulaText, beq_eq_false_iff_ne] at hliteral
  exact Formula.ofText_of_head?_ne hliteral

end Grid

end Worksheet
