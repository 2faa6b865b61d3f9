import Mathlib.Order.Bounds.Basic
import Worksheet.Proofs.Attempt
import Worksheet.Proofs.Sheet.Cells

/-!
# Lists of Writes

What a list of writes makes of a sheet.

Whatever fills a sheet does it by writing texts, one after the other, and a
list of addresses with their texts says all that matters about it. Every write
within the limits succeeds, so a list of such writes is a plain fold of
storing. A cell that no write of the list is for keeps its text, and a cell
whose writes all agree holds what they say. Which of them came last is then of
no interest, and neither is the order.

The size only ever grows, so along each axis it is in the end the greatest of
what it was and what each text needed, also of the texts that a later write
has replaced.

## Main definitions

* `Sheet.writeAll`: The sheet after some writes, unless one of them fails.
* `Sheet.storeAll`: The sheet after storing some texts.

## Theorems

* `writeAll_append`: Writes in two parts.
* `writeAll_of_inLimits`, `writeAll_eq_ok_iff`: Writes succeed exactly when
  they are within the limits.
* `text_storeAll_of_forall_ne`, `text_storeAll_of_agree`: The text of a cell
  after some writes.
* `name_storeAll`, `size_storeAll_of_inside`: What some writes leave as it is.
* `isGreatest_storeAll`: The size along an axis after some writes.
-/

namespace Worksheet

namespace Sheet

/-- The sheet after some writes, unless one of them fails. -/
def writeAll (s : Sheet) (writes : List (Address × String)) : Except OutOfBounds Sheet :=
  writes.foldlM (fun s w => s.write w.1 w.2) s

/-- The sheet after storing some texts. -/
def storeAll (s : Sheet) (writes : List (Address × String)) : Sheet :=
  writes.foldl (fun s w => s.store w.1 w.2) s

theorem writeAll_cons (s : Sheet) (w : Address × String) (writes : List (Address × String)) :
    s.writeAll (w :: writes) = s.write w.1 w.2 >>= fun s' => s'.writeAll writes :=
  List.foldlM_cons

theorem writeAll_append (s : Sheet) (before after : List (Address × String)) :
    s.writeAll (before ++ after) = s.writeAll before >>= fun s' => s'.writeAll after :=
  List.foldlM_append

theorem storeAll_cons (s : Sheet) (w : Address × String) (writes : List (Address × String)) :
    s.storeAll (w :: writes) = (s.store w.1 w.2).storeAll writes :=
  rfl

/-- Writes within the limits succeed. -/
theorem writeAll_of_inLimits (writes : List (Address × String))
    (h : ∀ w ∈ writes, w.1.InLimits) : ∀ s : Sheet, s.writeAll writes = .ok (s.storeAll writes) := by
  induction writes with
  | nil => intro s; rfl
  | cons w writes ih =>
      intro s
      rw [writeAll_cons, write_of_inLimits s (h w List.mem_cons_self), storeAll_cons]
      exact ih (fun w' hw' => h w' (List.mem_cons_of_mem w hw')) _

/-- Only writes within the limits succeed. -/
theorem writeAll_eq_ok_iff {writes : List (Address × String)} {s s' : Sheet} :
    s.writeAll writes = .ok s' ↔ (∀ w ∈ writes, w.1.InLimits) ∧ s.storeAll writes = s' := by
  constructor
  · intro h
    have hlimits : ∀ w ∈ writes, w.1.InLimits := by
      intro w hw
      rcases Attempt.exists_of_foldlM h w hw with ⟨t, t', hwrite⟩
      exact ((write_eq_ok_iff t t' w.1 w.2).mp hwrite).1
    rw [writeAll_of_inLimits writes hlimits, Except.ok.injEq] at h
    exact ⟨hlimits, h⟩
  · rintro ⟨hlimits, rfl⟩
    exact writeAll_of_inLimits writes hlimits s

/-- A cell that no write is for keeps its text. -/
theorem text_storeAll_of_forall_ne {a : Address} (writes : List (Address × String))
    (h : ∀ w ∈ writes, w.1 ≠ a) : ∀ s : Sheet, (s.storeAll writes).text a = s.text a := by
  induction writes with
  | nil => intro s; rfl
  | cons w writes ih =>
      intro s
      rw [storeAll_cons, ih (fun w' hw' => h w' (List.mem_cons_of_mem w hw')), text_store,
        if_neg (h w List.mem_cons_self)]

/-- A cell whose writes all agree holds what they say. -/
theorem text_storeAll_of_agree {a : Address} {t : String} (writes : List (Address × String))
    (hmem : ∃ w ∈ writes, w.1 = a) (hagree : ∀ w ∈ writes, w.1 = a → w.2 = t) :
    ∀ s : Sheet, (s.storeAll writes).text a = t := by
  induction writes with
  | nil =>
      rcases hmem with ⟨w, hw, -⟩
      exact absurd hw List.not_mem_nil
  | cons w writes ih =>
      intro s
      have hrest : ∀ w' ∈ writes, w'.1 = a → w'.2 = t :=
        fun w' hw' => hagree w' (List.mem_cons_of_mem w hw')
      rw [storeAll_cons]
      -- Either a later write is for the cell as well, or this one is the last that is.
      by_cases hlater : ∃ w' ∈ writes, w'.1 = a
      · exact ih hlater hrest _
      · have hne : ∀ w' ∈ writes, w'.1 ≠ a := fun w' hw' hc => hlater ⟨w', hw', hc⟩
        rcases hmem with ⟨w', hw', ha⟩
        rcases List.mem_cons.mp hw' with rfl | hw'
        · rw [text_storeAll_of_forall_ne writes hne, text_store, if_pos ha]
          exact hagree w' List.mem_cons_self ha
        · exact absurd ha (hne w' hw')

theorem name_store (s : Sheet) (a : Address) (t : String) : (s.store a t).name = s.name := by
  unfold store
  split <;> rfl

/-- Writes leave the name. -/
theorem name_storeAll (writes : List (Address × String)) :
    ∀ s : Sheet, (s.storeAll writes).name = s.name := by
  induction writes with
  | nil => intro s; rfl
  | cons w writes ih =>
      intro s
      rw [storeAll_cons, ih, name_store]

/-- A write inside the size leaves the size. -/
theorem size_store_of_inside (s : Sheet) {a : Address} (h : a.row < s.rows ∧ a.col < s.cols)
    (t : String) : (s.store a t).rows = s.rows ∧ (s.store a t).cols = s.cols := by
  have hrow := UInt32.lt_iff_toNat_lt.mp h.1
  have hcol := UInt32.lt_iff_toNat_lt.mp h.2
  by_cases ht : t = ""
  · rw [ht, store_empty]
    exact ⟨rfl, rfl⟩
  · rw [store_nonempty s a ht]
    refine ⟨UInt32.toNat_inj.mp ?_, UInt32.toNat_inj.mp ?_⟩
    · rw [UInt32.toNat_max, Word.toNat_succ_of_lt h.1]
      omega
    · rw [UInt32.toNat_max, Word.toNat_succ_of_lt h.2]
      omega

/-- Writes inside the size of a sheet do not change the size. -/
theorem size_storeAll_of_inside {rows cols : UInt32} (writes : List (Address × String))
    (h : ∀ w ∈ writes, w.1.row < rows ∧ w.1.col < cols) : ∀ s : Sheet,
      s.rows = rows → s.cols = cols →
        (s.storeAll writes).rows = rows ∧ (s.storeAll writes).cols = cols := by
  induction writes with
  | nil => exact fun s hrows hcols => ⟨hrows, hcols⟩
  | cons w writes ih =>
      intro s hrows hcols
      subst hrows hcols
      have hstore := size_store_of_inside s (h w List.mem_cons_self) w.2
      exact ih (fun w' hw' => h w' (List.mem_cons_of_mem w hw')) _ hstore.1 hstore.2

theorem isGreatest_insert_of_max {a b n : Nat} {ns : Set Nat}
    (h : IsGreatest (insert (max a b) ns) n) : IsGreatest (insert a (insert b ns)) n := by
  rcases h with ⟨hmem, hle⟩
  have hmax : max a b ≤ n := hle (Set.mem_insert _ _)
  refine ⟨?_, ?_⟩
  · rcases Set.mem_insert_iff.mp hmem with rfl | hmem
    · rcases max_choice a b with h | h
      · exact Set.mem_insert_iff.mpr (.inl h)
      · exact Set.mem_insert_of_mem a (Set.mem_insert_iff.mpr (.inl h))
    · exact Set.mem_insert_of_mem a (Set.mem_insert_of_mem b hmem)
  · rintro m (rfl | rfl | hm)
    · exact le_trans (le_max_left _ _) hmax
    · exact le_trans (le_max_right _ _) hmax
    · exact hle (Set.mem_insert_of_mem _ hm)

/-- Along each axis the size after some writes is the greatest of what it was
    and what the texts need that are not empty. -/
theorem isGreatest_storeAll {size : Sheet → UInt32} {place : Address → UInt32}
    (hstore : ∀ (s : Sheet) {a : Address}, a.InLimits → ∀ t, (size (s.store a t)).toNat =
      if t = "" then (size s).toNat else max (size s).toNat ((place a).toNat + 1))
    (writes : List (Address × String)) (h : ∀ w ∈ writes, w.1.InLimits) : ∀ s : Sheet,
      IsGreatest (insert (size s).toNat {n | ∃ w ∈ writes, w.2 ≠ "" ∧ n = (place w.1).toNat + 1})
        (size (s.storeAll writes)).toNat := by
  induction writes with
  | nil =>
      intro s
      simp only [List.not_mem_nil, false_and, exists_false, Set.ofPred_false, insert_empty_eq]
      exact isGreatest_singleton
  | cons w writes ih =>
      intro s
      have hrest := ih (fun w' hw' => h w' (List.mem_cons_of_mem w hw')) (s.store w.1 w.2)
      have hsize := hstore s (h w List.mem_cons_self) w.2
      rw [storeAll_cons]
      by_cases hempty : w.2 = ""
      · -- The empty text needs nothing.
        rw [if_pos hempty] at hsize
        rw [hsize] at hrest
        simp only [List.mem_cons, exists_eq_or_imp, hempty, ne_eq, not_true_eq_false, false_and,
          false_or]
        exact hempty ▸ hrest
      · rw [if_neg hempty] at hsize
        rw [hsize] at hrest
        have hset : {n | ∃ w' ∈ w :: writes, w'.2 ≠ "" ∧ n = (place w'.1).toNat + 1} =
            insert ((place w.1).toNat + 1)
              {n | ∃ w' ∈ writes, w'.2 ≠ "" ∧ n = (place w'.1).toNat + 1} := by
          ext n
          simp only [List.mem_cons, exists_eq_or_imp, ne_eq, hempty, not_false_eq_true, true_and,
            Set.mem_insert_iff, Set.mem_ofPred_eq]
        rw [hset]
        exact isGreatest_insert_of_max hrest

end Sheet

end Worksheet
