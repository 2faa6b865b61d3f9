import Mathlib.Data.List.Nodup
import Mathlib.Data.List.Perm.Basic
import Worksheet.Proofs.Sheet.Operation
import Worksheet.Proofs.Sheet.Writes

/-!
# The Order of Writes

That writes to different cells can be made in any order.

A write changes one cell and makes each side of the size large enough for it.
Two texts in different cells are stored in the same map whichever comes first,
and the size is the greatest of what was there and what each of them needs.
Whether a write fails is settled by its address alone, so a write beyond the
limits fails wherever it stands in the list, and it never leaves a trace.

With that any two neighbours in a list of writes can change places, and every
order of the list is made of such changes.

## Main definitions

* `writeChanges`: A list of writes as changes of a sheet.

## Theorems

* `store_comm`: Texts are stored in different cells in either order.
* `settle_write_comm`: Writes to different cells change places, also where one
  of them fails.
* `runChanges_writes_perm`: All writes of a list do.
-/

namespace Worksheet

namespace Sheet

/-- The changes that write some texts, one after the other. -/
def writeChanges (writes : List (Address × String)) : List Change :=
  writes.map fun w => .write w.1 w.2

/-- Texts are stored in different cells in either order. -/
theorem store_comm (s : Sheet) {a b : Address} (ha : a.InLimits) (hb : b.InLimits) (h : a ≠ b)
    (t u : String) : (s.store a t).store b u = (s.store b u).store a t := by
  have hname : ((s.store a t).store b u).name = ((s.store b u).store a t).name := by
    simp only [name_store]
  have hrows : ((s.store a t).store b u).rows = ((s.store b u).store a t).rows := by
    refine UInt32.toNat_inj.mp ?_
    simp only [rows_store _ ha, rows_store _ hb]
    split_ifs <;> omega
  have hcols : ((s.store a t).store b u).cols = ((s.store b u).store a t).cols := by
    refine UInt32.toNat_inj.mp ?_
    simp only [cols_store _ ha, cols_store _ hb]
    split_ifs <;> omega
  have hcells : ((s.store a t).store b u).cells = ((s.store b u).store a t).cells := by
    refine Std.ExtTreeMap.ext_getElem? fun c => ?_
    simp only [cells_store]
    -- No cell is both of two different ones.
    by_cases hac : a = c
    · rw [if_pos hac, if_pos hac, if_neg fun hbc => h (hac.trans hbc.symm)]
    · rw [if_neg hac, if_neg hac]
  generalize (s.store a t).store b u = left at *
  generalize (s.store b u).store a t = right at *
  cases left
  cases right
  cases hname
  cases hrows
  cases hcols
  cases hcells
  rfl

/-- What a write leaves behind that may fail. -/
theorem settle_write (s : Sheet) (a : Address) (t : String) :
    s.settle (s.change (.write a t)) = if a.InLimits then s.store a t else s := by
  rw [change]
  by_cases ha : a.InLimits
  · rw [write_of_inLimits s ha, Attempt.mapError_ok, settle, if_pos ha]
  · rcases write_of_not_inLimits s ha t with ⟨e, he⟩
    rw [he, if_neg ha]
    rfl

/-- Writes to different cells change places, also where one of them fails. -/
theorem settle_write_comm (s : Sheet) {a b : Address} (h : a ≠ b) (t u : String) :
    let s₁ := s.settle (s.change (.write a t))
    let s₂ := s.settle (s.change (.write b u))
    s₁.settle (s₁.change (.write b u)) = s₂.settle (s₂.change (.write a t)) := by
  simp only [settle_write]
  by_cases ha : a.InLimits
  · by_cases hb : b.InLimits
    · simp only [if_pos ha, if_pos hb]
      exact s.store_comm ha hb h t u
    · simp only [if_neg hb]
  · simp only [if_neg ha]

/-- A list of writes to different cells leaves the same sheet in every order,
    where a write beyond the limits fails without effect. -/
theorem runChanges_writes_perm {writes writes' : List (Address × String)}
    (hcells : (writes.map Prod.fst).Nodup) (h : writes'.Perm writes) (s : Sheet) :
    s.runChanges (writeChanges writes') = s.runChanges (writeChanges writes) := by
  simp only [runChanges, writeChanges, List.foldl_map]
  refine (h.symm.foldl_eq' (fun w hw w' hw' s => ?_) s).symm
  by_cases heq : w = w'
  · rw [heq]
  · -- Two writes of the list for one cell would be the same one.
    have hne : w.1 ≠ w'.1 := fun hcell => heq (List.inj_on_of_nodup_map hcells hw hw' hcell)
    exact s.settle_write_comm hne w.2 w'.2

/-- A text, the empty text in a cell that held one, and a text beyond the limits,
    backwards. -/
theorem runChanges_writes_perm_backwards :
    let s := (empty "Small" 2 2).store ⟨4, 1⟩ "old"
    let writes := [(⟨6, 1⟩, "=A1"), (⟨4, 1⟩, ""), (⟨0, 16384⟩, "far")]
    (writes.map Prod.fst).Nodup ∧ writes.reverse.Perm writes ∧
      s.runChanges (writeChanges writes.reverse) = s.runChanges (writeChanges writes) ∧
      (s.runChanges (writeChanges writes)).rows = 7 := by
  intro s writes
  have hcells : (writes.map Prod.fst).Nodup := by decide
  have hperm : writes.reverse.Perm writes := List.reverse_perm writes
  exact ⟨hcells, hperm, runChanges_writes_perm hcells hperm s, by decide⟩

end Sheet

end Worksheet
