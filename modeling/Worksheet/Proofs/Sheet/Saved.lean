import Worksheet.Proofs.Address.Notation
import Worksheet.Proofs.Sheet.Validity
import Worksheet.Proofs.Sheet.Writes

/-!
# Saving as Data and Restoring

What a saved form is restored as, and that restoring undoes saving.

The keys of a saved form are read one after the other, and what they name is
written into an empty sheet. Reading a key can fail, but writing to the cell
that it names cannot, so restoring is reading all keys first and storing the
texts afterwards: `writes` is the list they make, and `sheet_eq_map_storeAll`
takes every question about a restored sheet to that list.

The saved form of a valid sheet has a key for each cell that holds something,
and no two cells share a key since they are printed differently. The order of
the keys is that of their characters, `A10` before `A2`, and not that of the
cells, but every cell is written once. No text is empty and no cell outside
the size, so restoring neither clears a cell nor makes the sheet grow.

## Main definitions

* `Saved.writes`: The cells that the keys name with their texts.

## Theorems

* `Saved.sheet_eq_map_storeAll`: A saved form is restored by storing its texts.
* `getElem?_cells_saved_iff`: The keys and texts that are saved of a sheet.
* `Saved.ofJson_toJson`: A JSON value loses nothing of a saved form.
* `sheet_saved_of_reachable`: A saved sheet is restored.
-/

namespace Worksheet

namespace Saved

/-- With every key coming once there is no last entry to look for. -/
theorem getElem?_ofList_eq_some_iff {l : List (String × String)}
    (hl : l.Pairwise fun p q => p.1 ≠ q.1) (k t : String) :
    (Std.ExtTreeMap.ofList l)[k]? = some t ↔ (k, t) ∈ l := by
  have hdistinct : l.Pairwise fun p q => ¬ compare p.1 q.1 = .eq :=
    hl.imp fun h hc => h (Std.LawfulEqCmp.eq_of_compare hc)
  have hfind : ∀ u, (k, u) ∈ l → (Std.ExtTreeMap.ofList l)[k]? = some u := fun u hu =>
    Std.ExtTreeMap.getElem?_ofList_of_mem Std.ReflCmp.compare_self hdistinct hu
  constructor
  · intro h
    have hkey : k ∈ Std.ExtTreeMap.ofList l := by
      rw [Std.ExtTreeMap.mem_iff_isSome_getElem?, h, Option.isSome_some]
    rw [Std.ExtTreeMap.mem_ofList, List.contains_iff_mem] at hkey
    rcases List.mem_map.mp hkey with ⟨⟨k', u⟩, hentry, rfl⟩
    rw [hfind u hentry, Option.some.injEq] at h
    exact h ▸ hentry
  · exact hfind t

theorem ofList_toList (m : Std.ExtTreeMap String String) : Std.ExtTreeMap.ofList m.toList = m := by
  have hkeys : m.toList.Pairwise fun p q => p.1 ≠ q.1 :=
    Std.ExtTreeMap.distinct_keys_toList.imp fun h hc =>
      h (Std.LawfulEqCmp.compare_eq_iff_eq.mpr hc)
  refine Std.ExtTreeMap.ext_getElem? fun k => Option.ext fun t => ?_
  rw [getElem?_ofList_eq_some_iff hkeys, Std.ExtTreeMap.mem_toList_iff_getElem?_eq_some]

end Saved

namespace Sheet

/-- A cell that a text names is within the limits, so that writing to it cannot
    fail. -/
theorem writeA1_eq (s : Sheet) (address t : String) :
    s.writeA1 address t = (Address.ofA1 address).map fun a => s.store a t := by
  unfold writeA1
  rcases h : Address.ofA1 address with e | a
  · rfl
  · have ha := (Address.ofA1_eq_ok_iff.mp h).inLimits
    exact congrArg (Except.mapError Address.Error.outOfBounds) (write_of_inLimits s ha t)

end Sheet

namespace Saved

/-- The cells that the keys name with their texts, unless a key names none. -/
def writes (saved : Saved) : Except Address.Error (List (Address × String)) :=
  saved.cells.toList.mapM fun e => (Address.ofA1 e.1).map fun a => (a, e.2)

/-- A saved form is restored by storing its texts in an empty sheet. -/
theorem sheet_eq_map_storeAll (saved : Saved) :
    saved.sheet = saved.writes.map (Sheet.empty saved.name saved.rows saved.cols).storeAll := by
  have hstep : (fun (s : Sheet) (e : String × String) => s.writeA1 e.1 e.2) = fun s e =>
      ((Address.ofA1 e.1).map fun a => (a, e.2)).map fun w : Address × String =>
        s.store w.1 w.2 := by
    funext s e
    rw [Sheet.writeA1_eq]
    rcases Address.ofA1 e.1 with _ | a <;> rfl
  rw [sheet, hstep]
  exact Attempt.foldlM_map _ (fun (s : Sheet) (w : Address × String) => s.store w.1 w.2) _ _

theorem ofJson_toJson (saved : Saved) : ofJson saved.toJson = .ok saved := by
  have hcount : ∀ n : UInt32, count (.integer n.toNat) = .ok n := by
    intro n
    have hn := n.toNat_lt
    have hsize : UInt32.size = 4294967296 := rfl
    rw [count, if_pos (by omega), Int.toNat_natCast, UInt32.ofNat_toNat]
  have htexts : texts (.object (saved.cells.toList.map fun e => (e.1, .text e.2))) =
      .ok saved.cells := by
    have hread : ∀ l : List (String × String),
        (l.map fun e => (e.1, Json.text e.2)).mapM (fun m => (text m.2).map fun t => (m.1, t)) =
          .ok l := by
      intro l
      induction l with
      | nil => rfl
      | cons e l ih =>
          rw [List.map_cons, List.mapM_cons, ih]
          rfl
    simp only [texts, hread]
    exact congrArg Except.ok (ofList_toList saved.cells)
  have hsome : ∀ {α β : Type} {read : α → Except Error β} {a : α} {b : β}, read a = .ok b →
      (some a).mapM read = .ok (some b) := by
    intro α β read a b h
    rw [Option.mapM_some, h]
    rfl
  -- The members are found by their keys, and each is read on its own.
  refine Attempt.bind_eq_ok_iff.mpr ⟨some saved.cells, hsome htexts, ?_⟩
  refine Attempt.bind_eq_ok_iff.mpr ⟨some saved.cols, hsome (hcount saved.cols), ?_⟩
  refine Attempt.bind_eq_ok_iff.mpr ⟨some saved.name, rfl, ?_⟩
  exact Attempt.bind_eq_ok_iff.mpr ⟨some saved.rows, hsome (hcount saved.rows), rfl⟩

end Saved

namespace Sheet

/-- The keys that are saved of a valid sheet are the names of the cells that
    hold something, each with the text of its cell. -/
theorem Valid.getElem?_cells_saved_iff {s : Sheet} (hs : s.Valid) (k t : String) :
    s.saved.cells[k]? = some t ↔ ∃ a : Address, a.a1 = k ∧ s.cells[a]? = some t := by
  have hentry : ∀ e ∈ s.entries, s.cells[e.1]? = some e.2 := fun e he =>
    Std.ExtTreeMap.mem_toList_iff_getElem?_eq_some.mp he
  -- Different cells have different keys.
  have hkeys : (s.entries.map fun e => (e.1.a1, e.2)).Pairwise fun p q => p.1 ≠ q.1 := by
    have hcells : s.entries.Pairwise fun p q => ¬ compare p.1 q.1 = .eq :=
      Std.ExtTreeMap.distinct_keys_toList
    rw [List.pairwise_map]
    refine List.Pairwise.imp_of_mem (fun hp hq hne hc => hne ?_) hcells
    rw [Address.a1_inj (hs.inLimits (mem_cells_of_eq_some (hentry _ hp)))
      (hs.inLimits (mem_cells_of_eq_some (hentry _ hq)))] at hc
    exact Std.LawfulEqCmp.compare_eq_iff_eq.mpr hc
  rw [saved, Saved.getElem?_ofList_eq_some_iff hkeys]
  constructor
  · intro h
    rcases List.mem_map.mp h with ⟨e, he, hkey⟩
    rw [Prod.mk.injEq] at hkey
    exact ⟨e.1, hkey.1, hkey.2 ▸ hentry e he⟩
  · rintro ⟨a, rfl, ha⟩
    exact List.mem_map.mpr ⟨(a, t), Std.ExtTreeMap.mem_toList_iff_getElem?_eq_some.mpr ha, rfl⟩

/-- The keys that are saved of a valid sheet are read as the cells that they
    were made for. -/
theorem Valid.exists_writes_saved {s : Sheet} (hs : s.Valid) :
    ∃ writes, s.saved.writes = .ok writes ∧ ∀ w, w ∈ writes ↔ s.cells[w.1]? = some w.2 := by
  have hread : ∀ {a : Address} {t : String}, s.cells[a]? = some t → Address.ofA1 a.a1 = .ok a :=
    fun h => Address.ofA1_a1 (hs.inLimits (mem_cells_of_eq_some h))
  have hentry : ∀ e ∈ s.saved.cells.toList, ∃ a : Address, a.a1 = e.1 ∧ s.cells[a]? = some e.2 :=
    fun e he => (hs.getElem?_cells_saved_iff e.1 e.2).mp
      (Std.ExtTreeMap.mem_toList_iff_getElem?_eq_some.mp he)
  have hall : ∀ e ∈ s.saved.cells.toList, ∃ w,
      ((Address.ofA1 e.1).map fun a => (a, e.2)) = .ok w := by
    intro e he
    rcases hentry e he with ⟨a, hkey, ha⟩
    exact ⟨(a, e.2), Attempt.map_eq_ok_iff.mpr ⟨a, hkey ▸ hread ha, rfl⟩⟩
  -- The keys were printed from addresses within the limits, so all of them parse.
  rcases Attempt.exists_mapM s.saved.cells.toList hall with ⟨writes, h, hwrites⟩
  refine ⟨writes, h, fun w => ?_⟩
  rw [hwrites]
  constructor
  · rintro ⟨e, he, hw⟩
    rcases hentry e he with ⟨a, hkey, ha⟩
    rcases Attempt.map_eq_ok_iff.mp hw with ⟨b, hb, rfl⟩
    rw [← hkey, hread ha, Except.ok.injEq] at hb
    exact hb ▸ ha
  · intro hw
    refine ⟨(w.1.a1, w.2), ?_, Attempt.map_eq_ok_iff.mpr ⟨w.1, hread hw, rfl⟩⟩
    rw [Std.ExtTreeMap.mem_toList_iff_getElem?_eq_some, hs.getElem?_cells_saved_iff]
    exact ⟨w.1, rfl, hw⟩

/-- A valid sheet that was saved is restored. -/
theorem Valid.sheet_saved {s : Sheet} (hs : s.Valid) : s.saved.sheet = .ok s := by
  rcases hs.exists_writes_saved with ⟨writes, h, hwrites⟩
  have hsheet : s.saved.sheet = .ok ((empty s.name s.rows s.cols).storeAll writes) := by
    rw [Saved.sheet_eq_map_storeAll, h]
    rfl
  have hinside : ∀ w ∈ writes, w.1.row < s.rows ∧ w.1.col < s.cols := fun w hw =>
    hs.inside w.1 (mem_cells_of_eq_some ((hwrites w).mp hw))
  rcases size_empty s.name hs.rows_le hs.cols_le with ⟨hrows, hcols⟩
  have hsize := size_storeAll_of_inside writes hinside (empty s.name s.rows s.cols) hrows hcols
  have htext : ∀ a, ((empty s.name s.rows s.cols).storeAll writes).text a = s.text a := by
    intro a
    rcases ha : s.cells[a]? with _ | t
    · -- A cell that holds nothing has no key, and stays as it is in the empty sheet.
      rw [text_storeAll_of_forall_ne writes, text_empty, text, ha, Option.getD_none]
      rintro w hw rfl
      rw [(hwrites w).mp hw] at ha
      exact absurd ha (by simp only [reduceCtorEq, not_false_eq_true])
    · have hagree : ∀ w ∈ writes, w.1 = a → w.2 = t := by
        rintro w hw rfl
        rw [(hwrites w).mp hw, Option.some.injEq] at ha
        exact ha
      rw [text_storeAll_of_agree writes ⟨(a, t), (hwrites (a, t)).mpr ha, rfl⟩ hagree, text, ha,
        Option.getD_some]
  rw [hsheet, (Valid.of_sheet hsheet).eq_of_text_eq hs (name_storeAll writes _) hsize.1 hsize.2
    htext]

/-- A reachable sheet is restored from its saved form, and from the JSON value
    of its saved form. -/
theorem sheet_saved_of_reachable {s : Sheet} (hs : s.Reachable) :
    s.saved.sheet = .ok s ∧ ofJson s.saved.toJson = .ok s := by
  have hsheet := hs.valid.sheet_saved
  refine ⟨hsheet, Attempt.bind_eq_ok_iff.mpr ⟨s.saved, Saved.ofJson_toJson s.saved, ?_⟩⟩
  exact Attempt.mapError_eq_ok_iff.mpr hsheet

/-- The keys come in the order `A10`, `A2`, `XFD1`, and the sheet is larger than
    its cells need. -/
theorem sheet_saved_of_reachable_unordered :
    let s := (empty "Wide" 40 3).run
      [.change (.write ⟨0, 16383⟩ "=A2"), .change (.write ⟨1, 0⟩ " "),
        .change (.writeA1 "$a$010" "x"), .change (.write ⟨5, 5⟩ "")]
    s.saved.cells.keys = ["A10", "A2", "XFD1"] ∧ (s.rows, s.cols) = (40, 16384) ∧
      ofJson s.saved.toJson = .ok s := by
  exact ⟨by decide +kernel, by decide, (sheet_saved_of_reachable ⟨_, _, _, _, rfl⟩).2⟩

end Sheet

end Worksheet
