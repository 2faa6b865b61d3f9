import Worksheet.Proofs.Range.Hull
import Worksheet.Proofs.Sheet.Cells

/-!
# The Used Range

What the used range of a sheet is: the hull of the cells that hold something.

The range is computed from the stored addresses one after the other. Since a
set has at most one hull, the order in which they come does not matter, and
any list with the same addresses in it gives the same range.

## Theorems

* `usedRange?_eq_some_iff`: The used range is the hull of the stored cells.
* `usedRange?_eq_none_iff`, `isEmpty_iff`: There is none exactly when nothing is stored.
* `usedRange?_eq_foldl_cover`: Any order of the stored cells will do.
* `mem_cells_iff_text`: Which cells are stored, read off what is seen.
-/

namespace Worksheet

namespace Sheet

theorem usedRange?_eq_none_iff (s : Sheet) : s.usedRange? = none ↔ ∀ a : Address, a ∉ s.cells := by
  constructor
  · intro h a ha
    have hkeys : s.cells.keys = [] := by
      rcases hk : s.cells.keys with _ | ⟨b, rest⟩
      · rfl
      · simp only [usedRange?, hk, reduceCtorEq] at h
    have hmem := Std.ExtTreeMap.mem_keys.mpr ha
    rw [hkeys] at hmem
    exact absurd hmem List.not_mem_nil
  · intro h
    have hkeys : s.cells.keys = [] :=
      List.eq_nil_iff_forall_not_mem.mpr (fun a ha => h a (Std.ExtTreeMap.mem_keys.mp ha))
    simp only [usedRange?, hkeys]

theorem isEmpty_iff (s : Sheet) : s.isEmpty = true ↔ s.usedRange? = none := by
  rw [usedRange?_eq_none_iff, isEmpty, Std.ExtTreeMap.isEmpty_iff,
    Std.ExtTreeMap.eq_empty_iff_forall_not_mem]

/-- The used range is the hull of the stored cells. -/
theorem isHull_of_usedRange? {s : Sheet} {r : Range} (h : s.usedRange? = some r) :
    r.IsHull {a | a ∈ s.cells} := by
  rcases hk : s.cells.keys with _ | ⟨a, rest⟩
  · simp only [usedRange?, hk, reduceCtorEq] at h
  · -- The keys are one list of the stored cells, and covering them gives their hull.
    simp only [usedRange?, hk, Option.some.injEq] at h
    have hset : {b | b ∈ a :: rest} = {b | b ∈ s.cells} := by
      ext b
      simp only [← hk, Std.ExtTreeMap.mem_keys]
    rw [← h, ← hset]
    exact Range.isHull_foldl_cover a rest

theorem usedRange?_eq_some_iff (s : Sheet) (r : Range) :
    s.usedRange? = some r ↔ r.IsHull {a | a ∈ s.cells} := by
  constructor
  · exact isHull_of_usedRange?
  · intro hull
    rcases h : s.usedRange? with _ | r'
    · rcases hull.nonempty with ⟨a, ha⟩
      exact absurd ha ((usedRange?_eq_none_iff s).mp h a)
    · -- Both ranges are hulls of the stored cells.
      rw [(isHull_of_usedRange? h).unique hull]

/-- Any list of the stored cells gives the used range, whatever its order and
    however often a cell occurs in it. -/
theorem usedRange?_eq_foldl_cover (s : Sheet) (a : Address) (rest : List Address)
    (h : ∀ b, b ∈ a :: rest ↔ b ∈ s.cells) :
    s.usedRange? = some (rest.foldl Range.cover (.single a)) := by
  have hset : {b | b ∈ a :: rest} = {b | b ∈ s.cells} := by
    ext b
    exact h b
  rw [usedRange?_eq_some_iff, ← hset]
  exact Range.isHull_foldl_cover a rest

theorem mem_cells_iff_text (s : Sheet) (hs : ∀ a : Address, s.cells[a]? ≠ some "") (a : Address) :
    a ∈ s.cells ↔ s.text a ≠ "" := by
  rw [Std.ExtTreeMap.mem_iff_isSome_getElem?, cells_eq_of_text s hs]
  by_cases h : s.text a = ""
  · simp only [h, if_true, Option.isSome_none, Bool.false_eq_true, ne_eq, not_true_eq_false]
  · simp only [h, if_false, Option.isSome_some, ne_eq, not_false_eq_true]

end Sheet

end Worksheet
