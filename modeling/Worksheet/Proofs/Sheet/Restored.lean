import Worksheet.Proofs.Sheet.Saved
import Worksheet.Proofs.Text.Order

/-!
# Restoring Any Saved Form

What a saved form is restored as, whoever has made it.

The keys of a saved form need not be printed addresses. Small letters, marks,
white space and leading zeros make other keys for the same cell, a text may be
empty, and the size may be smaller than the cells need or larger than a sheet
can be. All of this is settled by the order of the keys. They are visited in
the order of their bytes, each text replaces what an earlier key has left in
the cell, and the empty text leaves nothing there. The size grows for every
text that is not empty, also for one that does not stay.

A key that names no cell makes the whole form fail, and of several such keys
the first one in the order of bytes does.

## Main definitions

* `Saved.Entry`: A key that names a cell, with its text.
* `Saved.LastFor`: The text at the last key that names a cell.
* `Saved.Restored`: What is expected of a sheet that is restored.

## Theorems

* `text_storeAll_of_entries`: The text of a cell after visiting the keys.
* `sheet_eq_error_iff`: The key that a saved form fails with.
* `restored_of_writes`: A sheet that is restored is as expected.
* `sheet_restored`: When a saved form is restored, as what, and why not.
-/

namespace Worksheet

namespace Saved

/-- A key of the saved form names the cell and has the text. -/
def Entry (saved : Saved) (k : String) (a : Address) (t : String) : Prop :=
  saved.cells[k]? = some t ∧ Address.ofA1 k = .ok a

/-- The text belongs to the key that names the cell and comes last in the order
    of bytes. -/
def LastFor (saved : Saved) (a : Address) (t : String) : Prop :=
  ∃ k, saved.Entry k a t ∧
    ∀ k' t', saved.Entry k' a t' → ¬ Utf8.encode k.toList < Utf8.encode k'.toList

/-- What is expected of the sheet that a saved form is restored as. -/
structure Restored (saved : Saved) (s : Sheet) : Prop where
  /-- It has the name. -/
  name : s.name = saved.name
  /-- A cell holds the text of the last key that names it, unless that text is
      empty. -/
  cells : ∀ a t, s.cells[a]? = some t ↔ t ≠ "" ∧ saved.LastFor a t
  /-- There are as many rows as the size says, within the limit, or as the
      lowest text needs. -/
  rows : IsGreatest (insert (min saved.rows maxRows).toNat
    {n | ∃ k a t, saved.Entry k a t ∧ t ≠ "" ∧ n = a.row.toNat + 1}) s.rows.toNat
  /-- There are as many columns as the size says, within the limit, or as the
      rightmost text needs. -/
  cols : IsGreatest (insert (min saved.cols maxCols).toNat
    {n | ∃ k a t, saved.Entry k a t ∧ t ≠ "" ∧ n = a.col.toNat + 1}) s.cols.toNat

/-- A write stores the text of an entry in the cell that its key names. -/
def IsWrite (e : String × String) (w : Address × String) : Prop :=
  Address.ofA1 e.1 = .ok w.1 ∧ w.2 = e.2

theorem writes_eq_ok_iff {saved : Saved} {writes : List (Address × String)} :
    saved.writes = .ok writes ↔ List.Forall₂ IsWrite saved.cells.toList writes := by
  have hwrite : (fun (e : String × String) w =>
      ((Address.ofA1 e.1).map fun a => (a, e.2)) = .ok w) = IsWrite := by
    funext e w
    rw [eq_iff_iff, Attempt.map_eq_ok_iff, IsWrite]
    constructor
    · rintro ⟨a, ha, rfl⟩
      exact ⟨ha, rfl⟩
    · rintro ⟨ha, ht⟩
      exact ⟨w.1, ha, Prod.ext rfl ht.symm⟩
  rw [Saved.writes, Attempt.mapM_eq_ok_iff, hwrite]

/-- The keys are visited in their order. -/
theorem pairwise_toList (saved : Saved) : saved.cells.toList.Pairwise fun e e' => e.1 < e'.1 :=
  Std.ExtTreeMap.ordered_keys_toList.imp fun h => compare_lt_iff_lt.mp h

/-- The text of a cell after some writes that were made of entries in order:
    that of the last entry for the cell, or what was there before. -/
theorem text_storeAll_of_entries {entries : List (String × String)}
    {writes : List (Address × String)} (h : List.Forall₂ IsWrite entries writes)
    (horder : entries.Pairwise fun e e' => e.1 < e'.1) (a : Address) : ∀ s : Sheet,
      (∃ e ∈ entries, Address.ofA1 e.1 = .ok a ∧ (s.storeAll writes).text a = e.2 ∧
          ∀ e' ∈ entries, Address.ofA1 e'.1 = .ok a → ¬ e.1 < e'.1) ∨
        (∀ e ∈ entries, Address.ofA1 e.1 ≠ .ok a) ∧ (s.storeAll writes).text a = s.text a := by
  induction h with
  | nil => exact fun s => .inr ⟨fun e he => absurd he List.not_mem_nil, rfl⟩
  | @cons e w entries writes hw hrest ih =>
      intro s
      rw [List.pairwise_cons] at horder
      rcases ih horder.2 (s.store w.1 w.2) with ⟨e', he', hkey, htext, hlast⟩ | ⟨hnone, htext⟩
      · -- A later entry for the cell is still the last one with this entry in front.
        refine .inl ⟨e', List.mem_cons_of_mem e he', hkey, htext, ?_⟩
        rw [List.forall_mem_cons]
        exact ⟨fun _ => lt_asymm (horder.1 e' he'), hlast⟩
      · rw [Sheet.text_store] at htext
        by_cases ha : w.1 = a
        · rw [if_pos ha] at htext
          refine .inl ⟨e, List.mem_cons_self, ha ▸ hw.1, htext.trans hw.2, ?_⟩
          rw [List.forall_mem_cons]
          exact ⟨fun _ => lt_irrefl e.1, fun e' he' hkey => absurd hkey (hnone e' he')⟩
        · rw [if_neg ha] at htext
          refine .inr ⟨?_, htext⟩
          rw [List.forall_mem_cons]
          refine ⟨fun hkey => ha ?_, hnone⟩
          rw [hw.1, Except.ok.injEq] at hkey
          exact hkey

theorem mem_toList_iff {saved : Saved} {e : String × String} :
    e ∈ saved.cells.toList ↔ saved.cells[e.1]? = some e.2 :=
  Std.ExtTreeMap.mem_toList_iff_getElem?_eq_some

theorem mem_writes_iff {saved : Saved} {writes : List (Address × String)}
    (h : saved.writes = .ok writes) {w : Address × String} :
    w ∈ writes ↔ ∃ k, saved.Entry k w.1 w.2 := by
  rw [Attempt.mem_iff_of_mapM h]
  constructor
  · rintro ⟨e, he, hw⟩
    rcases Attempt.map_eq_ok_iff.mp hw with ⟨a, ha, rfl⟩
    exact ⟨e.1, mem_toList_iff.mp he, ha⟩
  · rintro ⟨k, hk, ha⟩
    exact ⟨(k, w.2), mem_toList_iff.mpr hk, Attempt.map_eq_ok_iff.mpr ⟨w.1, ha, rfl⟩⟩

/-- The cell holds the text of the last key that names it, and nothing when no
    key does. -/
theorem text_storeAll_of_writes {saved : Saved} {writes : List (Address × String)}
    (h : saved.writes = .ok writes) (s : Sheet) (a : Address) :
    saved.LastFor a ((s.storeAll writes).text a) ∨
      (∀ k t, ¬ saved.Entry k a t) ∧ (s.storeAll writes).text a = s.text a := by
  rcases text_storeAll_of_entries (writes_eq_ok_iff.mp h) saved.pairwise_toList a s with
    ⟨e, he, hkey, htext, hlast⟩ | ⟨hnone, htext⟩
  · refine .inl ⟨e.1, ⟨htext ▸ mem_toList_iff.mp he, hkey⟩, fun k' t' hentry => ?_⟩
    rw [Utf8.encode_toList_lt_iff]
    exact hlast (k', t') (mem_toList_iff.mpr hentry.1) hentry.2
  · refine .inr ⟨fun k t hentry => ?_, htext⟩
    exact hnone (k, t) (mem_toList_iff.mpr hentry.1) hentry.2

/-- No two keys come last. -/
theorem LastFor.unique {saved : Saved} {a : Address} {t u : String} (ht : saved.LastFor a t)
    (hu : saved.LastFor a u) : t = u := by
  rcases ht with ⟨k, hk, hlast⟩
  rcases hu with ⟨k', hk', hlast'⟩
  have hle := hlast k' u hk'
  have hle' := hlast' k t hk
  rw [Utf8.encode_toList_lt_iff, not_lt] at hle hle'
  have hkeys : k = k' := le_antisymm hle' hle
  subst hkeys
  exact Option.some.inj (hk.1.symm.trans hk'.1)

/-- The sheet that a saved form is restored as is what is expected of it. -/
theorem restored_of_sheet {saved : Saved} {s : Sheet} (h : saved.sheet = .ok s) :
    saved.Restored s := by
  have hvalid := Sheet.Valid.of_sheet h
  rw [sheet_eq_map_storeAll] at h
  rcases Attempt.map_eq_ok_iff.mp h with ⟨writes, hwrites, rfl⟩
  have hlimits : ∀ w ∈ writes, w.1.InLimits := by
    intro w hw
    rcases (mem_writes_iff hwrites).mp hw with ⟨k, hk⟩
    exact (Address.ofA1_eq_ok_iff.mp hk.2).inLimits
  -- The writes and the entries need the same size, whatever the axis.
  have hset : ∀ place : Address → UInt32,
      {n | ∃ w ∈ writes, w.2 ≠ "" ∧ n = (place w.1).toNat + 1} =
        {n | ∃ k a t, saved.Entry k a t ∧ t ≠ "" ∧ n = (place a).toNat + 1} := by
    intro place
    ext n
    simp only [mem_writes_iff hwrites, Set.mem_ofPred_eq]
    constructor
    · rintro ⟨w, ⟨k, hk⟩, hn⟩
      exact ⟨k, w.1, w.2, hk, hn⟩
    · rintro ⟨k, a, t, hk, hn⟩
      exact ⟨(a, t), ⟨k, hk⟩, hn⟩
  refine ⟨Sheet.name_storeAll writes _, fun a t => ?_, ?_, ?_⟩
  · rw [Sheet.cells_eq_of_text _ hvalid.nonempty]
    rcases text_storeAll_of_writes hwrites (Sheet.empty saved.name saved.rows saved.cols) a with
      hlast | ⟨hnone, htext⟩
    · -- The last entry for the cell may be the empty text, and then nothing is stored.
      by_cases hempty : ((Sheet.empty saved.name saved.rows saved.cols).storeAll writes).text a = ""
      · rw [if_pos hempty]
        rw [hempty] at hlast
        simp only [reduceCtorEq, false_iff, not_and, ne_eq]
        exact fun ht hlast' => ht (hlast'.unique hlast)
      · rw [if_neg hempty, Option.some.injEq]
        exact ⟨fun ht => ht ▸ ⟨hempty, hlast⟩, fun ht => hlast.unique ht.2⟩
    · rw [htext, Sheet.text_empty, if_pos rfl]
      simp only [reduceCtorEq, false_iff, not_and, ne_eq]
      rintro - ⟨k, hk, -⟩
      exact hnone k t hk
  · rw [← hset Address.row]
    exact Sheet.isGreatest_storeAll Sheet.rows_store writes hlimits _
  · rw [← hset Address.col]
    exact Sheet.isGreatest_storeAll Sheet.cols_store writes hlimits _

/-- A saved form fails with the key that comes first among those that name no
    cell. -/
theorem sheet_eq_error_iff {saved : Saved} {e : Address.Error} :
    saved.sheet = .error e ↔ ∃ k ∈ saved.cells, Address.ofA1 k = .error e ∧
      ∀ k' ∈ saved.cells, Utf8.encode k'.toList < Utf8.encode k.toList →
        ∃ a, Address.ofA1 k' = .ok a := by
  have hasymm : Std.Asymm fun e e' : String × String => e.1 < e'.1 := ⟨fun _ _ h => lt_asymm h⟩
  rw [sheet_eq_map_storeAll, Attempt.map_eq_error_iff, writes, Attempt.mapM_eq_error_iff,
    Attempt.firstFault_iff_of_pairwise saved.pairwise_toList]
  simp only [Attempt.map_eq_error_iff, Utf8.encode_toList_lt_iff, ← ne_eq,
    Attempt.forall_ne_error_iff, mem_toList_iff, Prod.exists, Prod.forall,
    Std.ExtTreeMap.mem_iff_isSome_getElem?, Option.isSome_iff_exists]
  constructor
  · rintro ⟨k, t, hk, he, hbefore⟩
    exact ⟨k, ⟨t, hk⟩, he, fun k' ⟨t', hk'⟩ => hbefore k' t' hk'⟩
  · rintro ⟨k, ⟨t, hk⟩, he, hbefore⟩
    exact ⟨k, t, hk, he, fun k' t' hk' => hbefore k' ⟨t', hk'⟩⟩

theorem exists_sheet_iff {saved : Saved} :
    (∃ s, saved.sheet = .ok s) ↔ ∀ k ∈ saved.cells, ∃ a, Address.ofA1 k = .ok a := by
  have hwrites : (∃ s, saved.sheet = .ok s) ↔ ∃ writes, saved.writes = .ok writes := by
    simp only [sheet_eq_map_storeAll, Attempt.map_eq_ok_iff]
    exact ⟨fun ⟨_, writes, h, _⟩ => ⟨writes, h⟩, fun ⟨writes, h⟩ => ⟨_, writes, h, rfl⟩⟩
  rw [hwrites, writes, Attempt.exists_mapM_iff]
  simp only [Attempt.map_eq_ok_iff, mem_toList_iff, Prod.forall,
    Std.ExtTreeMap.mem_iff_isSome_getElem?, Option.isSome_iff_exists]
  constructor
  · rintro h k ⟨t, hk⟩
    rcases h k t hk with ⟨_, a, ha, -⟩
    exact ⟨a, ha⟩
  · intro h k t hk
    rcases h k ⟨t, hk⟩ with ⟨a, ha⟩
    exact ⟨(a, t), a, ha, rfl⟩

/-- A saved form is restored exactly when each of its keys names a cell, and
    otherwise it fails with the first key that does not. A sheet that is
    restored is what is expected of it, and a JSON value with the saved form in
    it gives the same. -/
theorem sheet_restored (saved : Saved) :
    ((∃ s, saved.sheet = .ok s) ↔ ∀ k ∈ saved.cells, ∃ a, Address.ofA1 k = .ok a) ∧
    (∀ e, saved.sheet = .error e ↔ ∃ k ∈ saved.cells, Address.ofA1 k = .error e ∧
      ∀ k' ∈ saved.cells, Utf8.encode k'.toList < Utf8.encode k.toList →
        ∃ a, Address.ofA1 k' = .ok a) ∧
    (∀ s, saved.sheet = .ok s → saved.Restored s) ∧
    Sheet.ofJson saved.toJson = saved.sheet.mapError .address := by
  refine ⟨exists_sheet_iff, fun e => sheet_eq_error_iff, fun s => restored_of_sheet, ?_⟩
  rw [Sheet.ofJson, ofJson_toJson]
  rfl

/-- The last of three keys for one cell empties it, and the size stays as it
    grew. -/
theorem sheet_restored_emptied :
    let saved : Saved := ⟨"S", 0, 5, .ofList [("$b$2", "1"), ("B02", "2"), ("b2", "")]⟩
    saved.sheet = .ok ⟨"S", 2, 5, ∅⟩ ∧ saved.Restored ⟨"S", 2, 5, ∅⟩ := by
  intro saved
  have hsheet : saved.sheet = .ok ⟨"S", 2, 5, ∅⟩ :=
    Attempt.toOption_eq_some_iff.mp (by decide +kernel)
  exact ⟨hsheet, (sheet_restored saved).2.2.1 _ hsheet⟩

end Saved

end Worksheet
