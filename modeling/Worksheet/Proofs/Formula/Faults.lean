import Worksheet.Proofs.Address.Column
import Worksheet.Proofs.Attempt
import Worksheet.Proofs.Formula.ReadSet
import Worksheet.Proofs.Formula.Shown

/-!
# Faults

Which texts are worth a fault, and which fault it is.

A text is invalid by itself: what cells hold has no part in it, so it is
invalid on one grid exactly if it is on every grid. Division by zero is the
one fault that cells can bring about. It takes a division whose right side
counts as zero, and a side counts as zero not only when its number is one of
the two zeros but also when it has no number: when it names no cell, when the
cell it names holds nothing, a formula or any text that is no number, and when
it is neither a reference nor a number.

## Main definitions

* `Operand.ReadsZero`: A side of an operation counts as zero.

## Theorems

* `Operator.apply_eq_fault_iff`, `Grid.value_eq_fault_iff`: Where faults come
  from.
* `Reference.address?_eq_none_iff`: The references that name no cell.
* `Grid.isZero_number_iff`: The sides that count as zero.
* `Grid.value_fault_exactly`: The texts that are worth a fault.
-/

namespace Worksheet

/-- A number is zero exactly when it is one of the two zeros. -/
theorem Number.isZero_iff {x : Number} : x.isZero = true ↔ ∃ negative, x = zero negative := by
  constructor
  · intro h
    cases x with
    | nan => exact absurd h Bool.false_ne_true
    | infinity negative => exact absurd h Bool.false_ne_true
    | finite negative m =>
        refine ⟨negative, ?_⟩
        rcases m with ⟨units, hunits⟩
        have hzero : units = 0 := of_decide_eq_true h
        subst hzero
        rfl
  · rintro ⟨negative, rfl⟩
    rfl

/-- Dividing by zero is the one way for an operation to fail. -/
theorem Operator.apply_eq_fault_iff {op : Operator} {x y : Number} {f : Fault} :
    op.apply x y = .fault f ↔ op = .div ∧ y.isZero = true ∧ f = .divisionByZero := by
  cases op with
  | add => simp only [apply, reduceCtorEq, false_and]
  | sub => simp only [apply, reduceCtorEq, false_and]
  | mul => simp only [apply, reduceCtorEq, false_and]
  | div =>
      rw [apply]
      by_cases hzero : y.isZero = true
      · rw [if_pos hzero, Value.fault.injEq]
        exact ⟨fun h => ⟨rfl, hzero, h.symm⟩, fun h => h.2.2.symm⟩
      · rw [if_neg hzero]
        exact iff_of_false (by simp only [reduceCtorEq, not_false_eq_true]) fun h => hzero h.2.1

namespace Grid

/-- The one fault a formula can have is the division by a zero. -/
theorem valueOf_eq_fault_iff {g : Grid} {formula : Formula} {f : Fault} :
    g.valueOf formula = .fault f ↔ f = .divisionByZero ∧
      ∃ left right, formula = .binary .div left right ∧ (g.number right).isZero = true := by
  cases formula with
  | literal t => simp only [valueOf, reduceCtorEq, false_and, exists_false, and_false]
  | number x => simp only [valueOf, reduceCtorEq, false_and, exists_false, and_false]
  | aggregate f corners => simp only [valueOf, reduceCtorEq, false_and, exists_false, and_false]
  | binary op left right =>
      rw [valueOf, Operator.apply_eq_fault_iff]
      constructor
      · rintro ⟨rfl, hzero, hf⟩
        exact ⟨hf, left, right, rfl, hzero⟩
      · rintro ⟨hf, left', right', heq, hzero⟩
        cases heq
        exact ⟨rfl, hzero, hf⟩

/-- A fault is either a text that is no formula or a division by zero. -/
theorem value_eq_fault_iff {g : Grid} {text : String} {f : Fault} :
    g.value text = .fault f ↔
      (f = .invalid ∧ ∃ e, Formula.ofText text = .error e) ∨
      (f = .divisionByZero ∧ ∃ left right, Formula.ofText text = .ok (.binary .div left right) ∧
        (g.number right).isZero = true) := by
  rw [value]
  cases Formula.ofText text with
  | error e =>
      simp only [Value.fault.injEq, Except.error.injEq, exists_eq', and_true, reduceCtorEq,
        false_and, exists_false, and_false, or_false, eq_comm]
  | ok formula =>
      simp only [valueOf_eq_fault_iff, Except.ok.injEq, reduceCtorEq, exists_false, and_false,
        false_or]

end Grid

/-- A side of an operation that counts as zero: a number that is zero, or no
    number at all. -/
inductive Operand.ReadsZero (g : Grid) : Operand → Prop where
  /-- The literal of a zero. -/
  | number {x : Number} (h : x.isZero = true) : ReadsZero g (.number x)
  /-- A cell with a zero in it. -/
  | cell {r : Reference} {a : Address} {x : Number} (ha : a.InLimits) (hr : r.Names a)
      (hx : Number.ofText? (g.text a) = some x) (h : x.isZero = true) : ReadsZero g (.reference r)
  /-- A cell that holds nothing. -/
  | empty {r : Reference} {a : Address} (ha : a.InLimits) (hr : r.Names a) (h : g.text a = "") :
      ReadsZero g (.reference r)
  /-- A cell that holds a formula. -/
  | formula {r : Reference} {a : Address} (ha : a.InLimits) (hr : r.Names a)
      (h : isFormulaText (g.text a) = true) : ReadsZero g (.reference r)
  /-- A cell with any other text that is no number. -/
  | other {r : Reference} {a : Address} (ha : a.InLimits) (hr : r.Names a)
      (h : Number.ofText? (g.text a) = none) : ReadsZero g (.reference r)
  /-- A reference to row zero. -/
  | rowZero {r : Reference} (h : r.row = 0) : ReadsZero g (.reference r)
  /-- A reference to a place beyond the limits. -/
  | beyond {r : Reference} (h : maxRows.toNat < r.row.toNat ∨ maxCols.toNat < r.column.toNat) :
      ReadsZero g (.reference r)
  /-- A text that is neither a reference nor a number. -/
  | invalid {t : String} : ReadsZero g (.invalid t)

/-- The references that name no cell. -/
theorem Reference.address?_eq_none_iff {r : Reference} (hcol : r.column ≠ 0) :
    r.address? = none ↔
      r.row = 0 ∨ maxRows.toNat < r.row.toNat ∨ maxCols.toNat < r.column.toNat := by
  rw [address?]
  by_cases hrow : r.row = 0
  · simp only [hrow, true_or, if_true]
  · have hbound : ∀ {w : UInt64} {limit : UInt32}, w ≠ 0 →
        (w - 1 < limit.toUInt64 ↔ ¬ limit.toNat < w.toNat) := by
      intro w limit hw
      have hpos := UInt64.pos_iff_ne_zero.mpr hw
      have hpos' : 0 < w.toNat := UInt64.lt_iff_toNat_lt.mp hpos
      rw [UInt64.lt_iff_toNat_lt, Word.toNat_pred_long hpos, UInt32.toNat_toUInt64]
      omega
    rw [if_neg (not_or.mpr ⟨hrow, hcol⟩)]
    by_cases hout : maxRows.toNat < r.row.toNat ∨ maxCols.toNat < r.column.toNat
    · rw [if_neg (by rw [hbound hrow, hbound hcol, ← not_or, not_not]; exact hout)]
      exact iff_of_true rfl (.inr hout)
    · rw [if_pos (by rw [hbound hrow, hbound hcol, ← not_or]; exact hout)]
      exact iff_of_false (by simp only [reduceCtorEq, not_false_eq_true])
        (not_or.mpr ⟨hrow, hout⟩)

/-- Letters count from one, so no column that is written is column zero. -/
theorem Reference.Written.column_ne_zero {cs : List Char} {r : Reference} (h : Written cs r) :
    r.column ≠ 0 := by
  rcases h with ⟨hletters, -⟩
  intro hzero
  have hpos := hletters.value_pos
  have hvalue := congrArg UInt64.toNat hzero
  rw [ofParts, Numeral.toNat_saturate] at hvalue
  have hsize : (0 : UInt64).toNat = 0 := rfl
  have hlimit : 0 < UInt64.size - 1 := by decide
  omega

/-- The two sides of an operation that is read have texts of their own. -/
theorem Formula.exists_written_of_ofText {text : String} {op : Operator} {left right : Operand}
    (h : ofText text = .ok (.binary op left right)) :
    (∃ cs, Operand.Written cs left) ∧ ∃ cs, Operand.Written cs right := by
  cases Written.of_ofText h with
  | body _ hbody =>
      cases hbody with
      | binary _ _ hleft hright => exact ⟨⟨_, hleft⟩, _, hright⟩

namespace Grid

section Reference

variable {g : Grid} {r : Reference} {a : Address}

/-- A reference within the limits is worth zero exactly when its cell reads as
    no number but a zero. -/
theorem isZero_number_of_address? (ha : r.address? = some a) :
    (g.number (.reference r)).isZero = true ↔
      ∀ x, Number.ofText? (g.text a) = some x → x.isZero = true := by
  simp only [number, ha, Option.bind_some, numberAt?]
  cases Number.ofText? (g.text a) with
  | none => exact iff_of_true rfl fun x hx => absurd hx (Option.some_ne_none x).symm
  | some x => simp only [Option.getD_some, Option.some.injEq, forall_eq']

/-- A reference beyond the limits names no cell, so it is worth zero. -/
theorem isZero_number_of_address?_eq_none (ha : r.address? = none) :
    (g.number (.reference r)).isZero = true := by
  rw [number, ha]
  rfl

/-- Whatever keeps the text of the cell from being a number, the cell counts as
    zero. -/
theorem isZero_number_of_ofText?_eq_none (hin : a.InLimits) (hnames : r.Names a)
    (hx : Number.ofText? (g.text a) = none) : (g.number (.reference r)).isZero = true := by
  rw [isZero_number_of_address? (Reference.address?_eq_some_iff.mpr ⟨hin, hnames⟩), hx]
  exact fun x h => absurd h (Option.some_ne_none x).symm

/-- A reference that is worth zero reads zero, by its cell or for lack of one. -/
theorem readsZero_of_isZero_number (hcol : r.column ≠ 0)
    (h : (g.number (.reference r)).isZero = true) : Operand.ReadsZero g (.reference r) := by
  cases ha : r.address? with
  | none =>
      rcases (Reference.address?_eq_none_iff hcol).mp ha with hrow | hout
      · exact .rowZero hrow
      · exact .beyond hout
  | some a =>
      rcases Reference.address?_eq_some_iff.mp ha with ⟨hin, hnames⟩
      cases hx : Number.ofText? (g.text a) with
      | none => exact .other hin hnames hx
      | some x => exact .cell hin hnames hx ((isZero_number_of_address? ha).mp h x hx)

/-- A reference that reads zero is worth zero. -/
theorem isZero_number_of_readsZero (hcol : r.column ≠ 0)
    (h : Operand.ReadsZero g (.reference r)) : (g.number (.reference r)).isZero = true := by
  cases h with
  | cell hin hnames hx hzero =>
      rw [isZero_number_of_address? (Reference.address?_eq_some_iff.mpr ⟨hin, hnames⟩), hx]
      intro y hy
      rw [Option.some.injEq] at hy
      exact hy ▸ hzero
  | empty hin hnames htext =>
      have hempty : Number.ofText? "" = none := by decide
      exact isZero_number_of_ofText?_eq_none hin hnames (htext ▸ hempty)
  | formula hin hnames htext =>
      exact isZero_number_of_ofText?_eq_none hin hnames (ofText?_of_isFormulaText htext)
  | other hin hnames hx => exact isZero_number_of_ofText?_eq_none hin hnames hx
  | rowZero hrow =>
      exact isZero_number_of_address?_eq_none
        ((Reference.address?_eq_none_iff hcol).mpr (.inl hrow))
  | beyond hlimit =>
      exact isZero_number_of_address?_eq_none
        ((Reference.address?_eq_none_iff hcol).mpr (.inr hlimit))

end Reference

/-- The sides that count as zero. -/
theorem isZero_number_iff {g : Grid} {cs : List Char} {o : Operand} (ho : o.Written cs) :
    (g.number o).isZero = true ↔ o.ReadsZero g := by
  cases ho with
  | reference hr =>
      exact ⟨readsZero_of_isZero_number hr.column_ne_zero,
        isZero_number_of_readsZero hr.column_ne_zero⟩
  | number =>
      constructor
      · exact .number
      · rintro ⟨h⟩
        exact h
  | invalid => exact iff_of_true rfl .invalid

/-- A text is invalid for some grid exactly if it is for every grid, and that is
    when it starts like a formula and is none. It divides by zero exactly if it
    is a division whose right side is one of the two zeros, and a side is one of
    them exactly if it has a zero for its number or has no number. -/
theorem value_fault_exactly (text : String) :
    ((∃ g : Grid, g.value text = .fault .invalid) ↔ ∃ e, Formula.ofText text = .error e) ∧
      ((∀ g : Grid, g.value text = .fault .invalid) ↔ ∃ e, Formula.ofText text = .error e) ∧
      ∀ g : Grid,
        (g.value text = .fault .divisionByZero ↔
          ∃ left right, Formula.ofText text = .ok (.binary .div left right) ∧
            ∃ negative, g.number right = .zero negative) ∧
          ∀ op left right, Formula.ofText text = .ok (.binary op left right) →
            ∀ o ∈ [left, right], (∃ negative, g.number o = .zero negative) ↔ o.ReadsZero g := by
  have hinvalid : ∀ g : Grid,
      g.value text = .fault .invalid ↔ ∃ e, Formula.ofText text = .error e := by
    intro g
    simp only [value_eq_fault_iff, true_and, reduceCtorEq, false_and, or_false]
  have hgrid : Nonempty Grid := ⟨⟨fun _ => "", none⟩⟩
  refine ⟨?_, ?_, fun g => ⟨?_, fun op left right h o ho => ?_⟩⟩
  · simp only [hinvalid, exists_const]
  · simp only [hinvalid, forall_const]
  · simp only [value_eq_fault_iff, reduceCtorEq, false_and, true_and, false_or, Number.isZero_iff]
  · rw [← Number.isZero_iff]
    rcases Formula.exists_written_of_ofText h with ⟨⟨_, hleft⟩, _, hright⟩
    simp only [List.mem_cons, List.not_mem_nil, or_false] at ho
    rcases ho with rfl | rfl
    · exact isZero_number_iff hleft
    · exact isZero_number_iff hright

/-- Row zero divided by a cell that holds a formula. -/
theorem value_fault_exactly_formula :
    let g : Grid := ⟨fun a => if a = ⟨1, 1⟩ then "=5" else "3", none⟩
    Formula.ofText "=A0/B2" = .ok (.binary .div (.reference ⟨1, 0⟩) (.reference ⟨2, 2⟩)) ∧
      (Operand.reference ⟨1, 0⟩).ReadsZero g ∧ (Operand.reference ⟨2, 2⟩).ReadsZero g ∧
      g.value "=A0/B2" = .fault .divisionByZero := by
  intro g
  have hformula : Formula.ofText "=A0/B2" =
      .ok (.binary .div (.reference ⟨1, 0⟩) (.reference ⟨2, 2⟩)) :=
    Attempt.toOption_eq_some_iff.mp (by decide +kernel)
  rcases (value_fault_exactly "=A0/B2").2.2 g with ⟨hdiv, hsides⟩
  have hleft : g.number (.reference ⟨1, 0⟩) = .zero false := by decide +kernel
  have hright : g.number (.reference ⟨2, 2⟩) = .zero false := by decide +kernel
  exact ⟨hformula, (hsides _ _ _ hformula _ List.mem_cons_self).mp ⟨_, hleft⟩,
    (hsides _ _ _ hformula _ (List.mem_cons_of_mem _ List.mem_cons_self)).mp ⟨_, hright⟩,
    hdiv.mpr ⟨_, _, hformula, _, hright⟩⟩

end Grid

end Worksheet
