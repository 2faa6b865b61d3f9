import Worksheet.Proofs.Formula.Corners

/-!
# What a Formula Reads

The cells that the value of a formula depends on, and what it takes from them.

A formula refers to the cells between the corners of its range, or to those
its operands name. From each of them it takes the number in its text and
nothing else, so two grids of one size that agree on these numbers give it the
same value; that is `valueOf_congr`.

The size of a grid only decides where a range is read. Where there are no
numbers outside of it, reading inside is the same as reading everywhere: the
cells that are left out hold nothing to be added, and those that are read
keep their order. That is `value_eq_of_outside`.

## Main definitions

* `Reference.Names`, `Operand.RefersTo`, `Formula.RefersTo`: The cells that
  are referred to.
* `Formula.TextRefersTo`: The same for the text of a formula.

## Theorems

* `Reference.address?_eq_some_iff`: The cell a reference is read in.
* `Grid.valueOf_congr`, `Grid.value_congr`: Only the numbers in these cells
  matter.
* `Grid.value_eq_of_outside`: The size does not, if there are none outside it.
-/

namespace Worksheet

/-- The reference names the cell. -/
def Reference.Names (r : Reference) (a : Address) : Prop :=
  r.row.toNat = a.row.toNat + 1 ∧ r.column.toNat = a.col.toNat + 1

/-- The operand is a reference that names the cell. -/
def Operand.RefersTo : Operand → Address → Prop
  | .reference r, a => r.Names a
  | .number _, _ => False
  | .invalid _, _ => False

/-- The cell lies between the corners of the formula's range or is named by one
    of its operands. -/
def Formula.RefersTo : Formula → Address → Prop
  | .literal _, _ => False
  | .number _, _ => False
  | .aggregate _ corners, a => corners.Covers a
  | .binary _ left right, a => left.RefersTo a ∨ right.RefersTo a

/-- The text is a formula that refers to the cell. -/
def Formula.TextRefersTo (text : String) (a : Address) : Prop :=
  ∃ formula, ofText text = .ok formula ∧ formula.RefersTo a

/-- A reference has an address exactly when it names one within the limits. -/
theorem Reference.address?_eq_some_iff {r : Reference} {a : Address} :
    r.address? = some a ↔ a.InLimits ∧ r.Names a := by
  rw [address?]
  by_cases hzero : r.row = 0 ∨ r.column = 0
  · -- Counted from one there is no line zero.
    rw [if_pos hzero]
    refine ⟨fun h => absurd h (by simp only [reduceCtorEq, not_false_eq_true]), fun h => ?_⟩
    rcases hzero with hzero | hzero
    · exact absurd (hzero ▸ h.2.1).symm (Nat.succ_ne_zero _)
    · exact absurd (hzero ▸ h.2.2).symm (Nat.succ_ne_zero _)
  · rw [not_or] at hzero
    have hrow := @Word.pred_lt_and_toUInt32_pred_eq_iff r.row maxRows a.row
      (UInt64.pos_iff_ne_zero.mpr hzero.1)
    have hcol := @Word.pred_lt_and_toUInt32_pred_eq_iff r.column maxCols a.col
      (UInt64.pos_iff_ne_zero.mpr hzero.2)
    rw [if_neg (not_or.mpr hzero), Address.InLimits, Names, and_and_and_comm, ← hrow, ← hcol]
    cases a
    by_cases hlt : r.row - 1 < maxRows.toUInt64 ∧ r.column - 1 < maxCols.toUInt64
    · simp only [hlt.1, hlt.2, and_self, if_true, true_and, Option.some.injEq, Address.mk.injEq]
    · simp only [if_neg hlt, reduceCtorEq, false_iff]
      rintro ⟨⟨hrowlt, -⟩, hcollt, -⟩
      exact hlt ⟨hrowlt, hcollt⟩

namespace Grid

/-- The cells of a scan depend on the size of the grid, not on its texts. -/
theorem scan_eq_of_size {g g' : Grid} (h : g.size = g'.size) (c : Corners) :
    g.scan c = g'.scan c := by
  simp only [scan, clipped, bounds, h]

/-- An operand depends on the cell it refers to. -/
theorem number_congr {g g' : Grid} {o : Operand}
    (h : ∀ a, o.RefersTo a → g.numberAt? a = g'.numberAt? a) : g.number o = g'.number o := by
  cases o with
  | reference r =>
      simp only [number]
      cases ha : r.address? with
      | none => simp only [Option.bind_none]
      | some a =>
          simp only [Option.bind_some, h a (Reference.address?_eq_some_iff.mp ha).2]
  | number x => rfl
  | invalid t => rfl

/-- The value of a formula depends on nothing but the numbers in the cells it
    refers to. -/
theorem valueOf_congr {g g' : Grid} (hsize : g.size = g'.size) {formula : Formula}
    (h : ∀ a, formula.RefersTo a → g.numberAt? a = g'.numberAt? a) :
    g.valueOf formula = g'.valueOf formula := by
  cases formula with
  | literal t => rfl
  | number x => rfl
  | aggregate f corners =>
      have hnumbers : g.numbers corners = g'.numbers corners := by
        rw [numbers_eq_filterMap_scan, numbers_eq_filterMap_scan, scan_eq_of_size hsize]
        exact List.filterMap_congr fun a ha => h a ((mem_scan_iff g' corners a).mp ha).2.2
      simp only [valueOf, hnumbers]
  | binary op left right =>
      have hleft := number_congr fun a ha => h a (Or.inl ha)
      have hright := number_congr fun a ha => h a (Or.inr ha)
      simp only [valueOf, hleft, hright]

/-- On grids of one size the value of a text depends on the cells it refers
    to. -/
theorem value_congr {g g' : Grid} (hsize : g.size = g'.size) {text : String}
    (h : ∀ a, Formula.TextRefersTo text a → g.numberAt? a = g'.numberAt? a) :
    g.value text = g'.value text := by
  rw [value, value]
  cases hformula : Formula.ofText text with
  | error e => rfl
  | ok formula => exact valueOf_congr hsize fun a ha => h a ⟨formula, hformula, ha⟩

/-- Inside the size the cells are the same and in the same order, so they are
    what is left of all cells when those outside are passed over, which hold no
    number. -/
theorem numbers_eq_of_outside {g : Grid} (h : ∀ a, ¬ g.Inside a → g.numberAt? a = none)
    (c : Corners) : g.numbers c = (Grid.mk g.text none).numbers c := by
  classical
  -- Both scans are in order, so they need only have the same members.
  have hscan : g.scan c = ((Grid.mk g.text none).scan c).filter fun a => g.Inside a := by
    refine (g.pairwise_scan c).eq_of_mem_iff ((pairwise_scan _ c).filter _) fun a => ?_
    have hopen : (Grid.mk g.text none).Inside a := by
      intro rows cols hsize
      exact absurd hsize (by simp only [reduceCtorEq, not_false_eq_true])
    rw [List.mem_filter, mem_scan_iff, mem_scan_iff, decide_eq_true_eq]
    constructor
    · rintro ⟨hlimits, hin, hcovers⟩
      exact ⟨⟨hlimits, hopen, hcovers⟩, hin⟩
    · rintro ⟨⟨hlimits, -, hcovers⟩, hin⟩
      exact ⟨hlimits, hin, hcovers⟩
  rw [numbers_eq_filterMap_scan, numbers_eq_filterMap_scan, hscan, List.filterMap_filter]
  refine List.filterMap_congr fun a _ => ?_
  by_cases hin : g.Inside a
  · rw [if_pos (decide_eq_true hin)]
    rfl
  · rw [if_neg (by rw [decide_eq_true_eq]; exact hin)]
    exact (h a hin).symm

/-- A grid without numbers outside its size is worth the same without its
    size. -/
theorem value_eq_of_outside {g : Grid} (h : ∀ a, ¬ g.Inside a → g.numberAt? a = none)
    (text : String) : g.value text = (Grid.mk g.text none).value text := by
  rw [value, value]
  cases Formula.ofText text with
  | error e => rfl
  | ok formula =>
      cases formula with
      | literal t => rfl
      | number x => rfl
      | aggregate f corners => simp only [valueOf, numbers_eq_of_outside h]
      | binary op left right =>
          -- Operands are read wherever they are.
          have hnumber : ∀ o, g.number o = (Grid.mk g.text none).number o := by
            intro o
            exact number_congr fun a _ => rfl
          simp only [valueOf, hnumber]

end Grid

end Worksheet
