import Worksheet.Proofs.Formula.ReadSet
import Worksheet.Proofs.Formula.Shown
import Worksheet.Proofs.Sheet.Validity

/-!
# What Cells Show under Edits

That the cells of a sheet show their values and nothing that happens around
them.

A sheet stores nothing outside its size, so the size that ranges are read in
is of no account: a formula is worth what it would be worth if ranges were
read as far as the limits reach. What a cell shows is then settled by its own
text and by the numbers in the cells its formula refers to.

An edit changes the text of one cell and may make the sheet grow. Other cells
do not notice the growth, and they notice the new text only if their formula
refers to that cell and the number in it is another one. The text of a formula
is no number, so no cell ever notices what formula another cell holds.

## Main definitions

* `Edited`: One cell was given a text or emptied.

## Theorems

* `Valid.value_grid`: The size that ranges are read in is of no account.
* `Valid.shownAt_congr`: What settles what a cell shows.
* `value_grid_of_reachable`: The size is of no account for reachable sheets.
* `shownAt_of_edited`: What an edit leaves as it is.
-/

namespace Worksheet

theorem not_textRefersTo {text : String} (h : isFormulaText text = false) (a : Address) :
    ¬ Formula.TextRefersTo text a := by
  rintro ⟨formula, hformula, hrefers⟩
  rw [isFormulaText, beq_eq_false_iff_ne] at h
  rw [Formula.ofText_of_head?_ne h, Except.ok.injEq] at hformula
  exact absurd (hformula ▸ hrefers) (by simp only [Formula.RefersTo, not_false_eq_true])

namespace Sheet

variable {s s' : Sheet} {p q : Address}

/-- Outside its size a valid sheet holds nothing, and nothing is no number. -/
theorem Valid.numberAt?_of_not_inside (hs : s.Valid) (ha : ¬ s.grid.Inside q) :
    s.grid.numberAt? q = none := by
  have hout : s.cells[q]? = none := by
    by_contra hne
    refine ha fun rows cols hsize => ?_
    have hin := hs.inside q (Std.ExtTreeMap.mem_iff_isSome_getElem?.mpr
      (Option.isSome_iff_ne_none.mpr hne))
    cases hsize
    exact hin
  have htext : s.text q = "" := by
    rw [text, hout, Option.getD_none]
  have hnone : Number.ofText? "" = none := by decide
  simp only [Grid.numberAt?, grid, htext, hnone]

/-- The values of formulas do not depend on the size that ranges are read in. -/
theorem Valid.value_grid (hs : s.Valid) (t : String) :
    s.grid.value t = (Grid.mk s.text none).value t :=
  Grid.value_eq_of_outside (fun _ => hs.numberAt?_of_not_inside) t

/-- What a cell shows is settled by its text and by the numbers in the cells
    that its formula refers to. -/
theorem Valid.shownAt_congr (hs : s.Valid) (hs' : s'.Valid) (htext : s'.text q = s.text q)
    (h : ∀ a, Formula.TextRefersTo (s.text q) a →
      Number.ofText? (s'.text a) = Number.ofText? (s.text a)) :
    s'.shownAt q = s.shownAt q := by
  have hvalue : s'.grid.value (s.text q) = s.grid.value (s.text q) := by
    rw [hs.value_grid, hs'.value_grid]
    have hsize : (Grid.mk s'.text none).size = (Grid.mk s.text none).size := rfl
    refine Grid.value_congr hsize fun a ha => ?_
    simp only [Grid.numberAt?, h a ha]
  simp only [shownAt, Grid.shown, htext, hvalue]

/-- The values of formulas in a sheet are those they would have if ranges were
    read as far as the limits reach. -/
theorem value_grid_of_reachable (hs : s.Reachable) (t : String) :
    s.grid.value t = (Grid.mk s.text none).value t :=
  hs.valid.value_grid t

/-- The sum of everything there could be, found by reading a few cells. -/
theorem value_grid_of_reachable_whole :
    let s := (empty "Small" 2 2).run
      [.change (.write ⟨4, 9⟩ "5"), .change (.write ⟨0, 1⟩ "=7"), .change (.write ⟨2, 3⟩ "1,2")]
    s.Reachable ∧
      (Grid.mk s.text none).value "=SUM(XFD1048576:A0)" = .number (Number.ofNat 17) := by
  intro s
  have hs : s.Reachable := ⟨"Small", 2, 2, _, rfl⟩
  have hvalue : s.grid.value "=SUM(XFD1048576:A0)" = .number (Number.ofNat 17) := by
    decide +kernel
  exact ⟨hs, (value_grid_of_reachable hs _).symm.trans hvalue⟩

/-- The sheet after one cell was given a text or emptied. -/
inductive Edited (s : Sheet) (p : Address) : Sheet → Prop where
  | write {t : String} {s' : Sheet} (h : s.write p t = .ok s') : Edited s p s'
  | clear : Edited s p (s.clear p)

theorem Edited.text_of_ne (h : s.Edited p s') (hq : q ≠ p) : s'.text q = s.text q := by
  cases h with
  | @write t _ h =>
      rcases (write_eq_ok_iff s s' p t).mp h with ⟨-, rfl⟩
      rw [text_store, if_neg hq.symm]
  | clear => rw [text_clear, if_neg hq.symm]

theorem Edited.valid (h : s.Edited p s') (hs : s.Valid) : s'.Valid := by
  cases h with
  | write h => exact hs.write h
  | clear => exact hs.clear p

theorem Edited.size_le (h : s.Edited p s') : s.rows ≤ s'.rows ∧ s.cols ≤ s'.cols := by
  cases h with
  | @write t _ h =>
      rcases (write_eq_ok_iff s s' p t).mp h with ⟨hp, rfl⟩
      rw [UInt32.le_iff_toNat_le, UInt32.le_iff_toNat_le, rows_store s hp, cols_store s hp]
      by_cases ht : t = ""
      · rw [if_pos ht, if_pos ht]
        exact ⟨Nat.le_refl _, Nat.le_refl _⟩
      · rw [if_neg ht, if_neg ht]
        exact ⟨Nat.le_max_left _ _, Nat.le_max_left _ _⟩
  | clear => exact ⟨UInt32.le_refl _, UInt32.le_refl _⟩

/-- A sheet that is only given the size an edit leaves is still valid. -/
theorem Edited.valid_grown (h : s.Edited p s') (hs : s.Valid) :
    ({ s with rows := s'.rows, cols := s'.cols } : Sheet).Valid where
  rows_le := (h.valid hs).rows_le
  cols_le := (h.valid hs).cols_le
  inside := by
    intro a ha
    have hin := hs.inside a ha
    exact ⟨UInt32.lt_of_lt_of_le hin.1 h.size_le.1, UInt32.lt_of_lt_of_le hin.2 h.size_le.2⟩
  nonempty := hs.nonempty

theorem Edited.shownAt_of_ofText?_eq (h : s.Edited p s') (hs : s.Valid) (hq : q ≠ p)
    (hnumber : Number.ofText? (s.text p) = Number.ofText? (s'.text p)) :
    s'.shownAt q = s.shownAt q := by
  refine hs.shownAt_congr (h.valid hs) (h.text_of_ne hq) fun a _ => ?_
  by_cases hap : a = p
  · rw [hap, hnumber]
  · rw [h.text_of_ne hap]

/-- An edit of one cell leaves what another cell shows as it is if the other
    one is no formula, or does not refer to the first, or if the number in the
    first stays what it was. So it does when one formula takes the place of
    another, or any text that is no number; and the growth of the sheet alone
    is never seen. -/
theorem shownAt_of_edited (hs : s.Reachable) (h : s.Edited p s') (hq : q ≠ p) :
    ((isFormulaText (s.text q) = false ∨ ¬ Formula.TextRefersTo (s.text q) p ∨
        Number.ofText? (s.text p) = Number.ofText? (s'.text p)) →
      s'.shownAt q = s.shownAt q) ∧
    (isFormulaText (s.text p) = true →
      (isFormulaText (s'.text p) = true ∨ Number.ofText? (s'.text p) = none) →
        s'.shownAt q = s.shownAt q) ∧
    ({ s with rows := s'.rows, cols := s'.cols } : Sheet).shownAt q = s.shownAt q := by
  have hvalid := hs.valid
  refine ⟨?_, ?_, ?_⟩
  · rintro (hliteral | hrefers | hnumber)
    · exact hvalid.shownAt_congr (h.valid hvalid) (h.text_of_ne hq)
        fun a ha => absurd ha (not_textRefersTo hliteral a)
    · refine hvalid.shownAt_congr (h.valid hvalid) (h.text_of_ne hq) fun a ha => ?_
      -- The edited cell is not among those that are read.
      have hap : a ≠ p := by
        rintro rfl
        exact hrefers ha
      rw [h.text_of_ne hap]
    · exact h.shownAt_of_ofText?_eq hvalid hq hnumber
  · intro hbefore hafter
    refine h.shownAt_of_ofText?_eq hvalid hq ?_
    rw [ofText?_of_isFormulaText hbefore]
    rcases hafter with hafter | hafter
    · rw [ofText?_of_isFormulaText hafter]
    · rw [hafter]
  · exact hvalid.shownAt_congr (h.valid_grown hvalid) rfl fun _ _ => rfl

/-- A cell beyond the size, in the middle of a range that is added up, is given
    a formula: the sheet grows and the sum stays. -/
theorem shownAt_of_edited_grown :
    let s := (empty "Small" 2 2).run
      [.change (.write ⟨0, 0⟩ "=SUM(A2:Z99)"), .change (.write ⟨1, 1⟩ "5")]
    let s' := s.store ⟨8, 9⟩ "=B2+1"
    s.Reachable ∧ s.Edited ⟨8, 9⟩ s' ∧ s'.rows = 9 ∧ s'.shownAt ⟨0, 0⟩ = s.shownAt ⟨0, 0⟩ := by
  intro s s'
  have hs : s.Reachable := ⟨"Small", 2, 2, _, rfl⟩
  have hedited : s.Edited ⟨8, 9⟩ s' := .write (write_of_inLimits s (by decide) "=B2+1")
  have hnumber : Number.ofText? (s.text ⟨8, 9⟩) = Number.ofText? (s'.text ⟨8, 9⟩) := by
    decide +kernel
  have hne : (⟨0, 0⟩ : Address) ≠ ⟨8, 9⟩ := by decide
  exact ⟨hs, hedited, by decide +kernel,
    (shownAt_of_edited hs hedited hne).1 (.inr (.inr hnumber))⟩

end Sheet

end Worksheet
