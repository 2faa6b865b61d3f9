import Mathlib.Data.Set.Card
import Worksheet.Proofs.Sheet.Validity

/-!
# The Picture of a Sheet

A sheet as it is seen from outside, and that histories of changes can be
followed on what is seen alone.

A picture is a text at every address and two numbers. It knows nothing of what
is stored, of words or of a map, so the rules of a change are as plain as they
can be said: a write beyond the limits fails, any other one replaces one text,
and only a text that is not empty makes the size grow. `picture_change` says
that a change of a sheet does to its picture what the same change of pictures
does, failing when that fails; `picture_runChanges` carries it over a history
by induction.

What is computed from the stored cells is then read off the picture at the
end: how many cells hold something, and the least range that holds them. Both
need that no empty text is stored, which is part of `Valid`.

## Main definitions

* `Picture`: A text at every address, and a size.
* `Picture.blank`, `Picture.put`, `Picture.crop`: The pictures after changes.
* `Picture.change?`: The picture after a change, unless it fails.
* `Picture.run`: The picture after some changes.
* `Sheet.picture`: The picture of a sheet.

## Theorems

* `picture_change`: One change of a sheet and of its picture.
* `picture_runChanges`: The same for a history.
* `cellCount_eq_ncard`: The number of cells that are seen to hold something.
* `runChanges_refines`: All that is seen of a sheet after a history.
-/

namespace Worksheet

/-- A sheet as it is seen from outside. -/
structure Picture where
  /-- The text at an address, empty where there is none. -/
  text : Address → String
  /-- The number of rows. -/
  rows : Nat
  /-- The number of columns. -/
  cols : Nat

namespace Picture

/-- Nothing at all, in a size that is cut down to the limits. -/
def blank (rows cols : Nat) : Picture :=
  ⟨fun _ => "", min rows maxRows.toNat, min cols maxCols.toNat⟩

/-- The picture with another text at one address. A text that is not empty
    makes the size reach at least past its address. -/
def put (p : Picture) (a : Address) (t : String) : Picture where
  text := fun b => if a = b then t else p.text b
  rows := if t = "" then p.rows else max p.rows (a.row.toNat + 1)
  cols := if t = "" then p.cols else max p.cols (a.col.toNat + 1)

/-- The picture with nothing at one address. -/
def erase (p : Picture) (a : Address) : Picture :=
  { p with text := fun b => if a = b then "" else p.text b }

/-- The picture in another size, cut down to the limits, with nothing outside. -/
def crop (p : Picture) (rows cols : Nat) : Picture where
  text := fun b =>
    if b.row.toNat < min rows maxRows.toNat ∧ b.col.toNat < min cols maxCols.toNat then
      p.text b
    else
      ""
  rows := min rows maxRows.toNat
  cols := min cols maxCols.toNat

/-- The picture after writing a text; beyond the limits that fails, for the
    empty text too. -/
def write? (p : Picture) (a : Address) (t : String) : Option Picture :=
  if maxRows ≤ a.row ∨ maxCols ≤ a.col then none else some (p.put a t)

/-- The picture after a change, unless the change fails. -/
def change? (p : Picture) : Sheet.Change → Option Picture
  | .fresh _ => some (blank Sheet.defaultRows.toNat Sheet.defaultCols.toNat)
  | .empty _ rows cols => some (blank rows.toNat cols.toNat)
  | .rename _ => some p
  | .write a t => p.write? a t
  | .writeA1 address t => (Address.ofA1 address).toOption.bind fun a => p.write? a t
  | .clear a => some (p.erase a)
  | .clearA1 address => (Address.ofA1 address).toOption.map p.erase
  | .resize rows cols => some (p.crop rows.toNat cols.toNat)

/-- The picture after some changes, those that fail being passed over. -/
def run (p : Picture) (changes : List Sheet.Change) : Picture :=
  changes.foldl (fun p c => (p.change? c).getD p) p

end Picture

namespace Sheet

/-- The picture of a sheet. -/
def picture (s : Sheet) : Picture :=
  ⟨s.text, s.rows.toNat, s.cols.toNat⟩

theorem picture_empty (name : String) (rows cols : UInt32) :
    (empty name rows cols).picture = .blank rows.toNat cols.toNat := by
  simp only [picture, Picture.blank, Picture.mk.injEq]
  refine ⟨?_, ?_, ?_⟩
  · funext b
    exact text_empty name rows cols b
  · exact UInt32.toNat_min rows maxRows
  · exact UInt32.toNat_min cols maxCols

theorem picture_clear (s : Sheet) (a : Address) : (s.clear a).picture = s.picture.erase a := by
  simp only [picture, Picture.erase, Picture.mk.injEq]
  refine ⟨?_, rfl, rfl⟩
  funext b
  exact text_clear s a b

/-- On the picture a store is a change at one address that grows the size. -/
theorem picture_store (s : Sheet) {a : Address} (ha : a.InLimits) (t : String) :
    (s.store a t).picture = s.picture.put a t := by
  simp only [picture, Picture.put, Picture.mk.injEq]
  refine ⟨?_, rows_store s ha t, cols_store s ha t⟩
  funext b
  exact text_store s a b t

/-- On the picture a new size cuts off what is outside. -/
theorem picture_resize (s : Sheet) (rows cols : UInt32) :
    (s.resize rows cols).picture = s.picture.crop rows.toNat cols.toNat := by
  simp only [picture, Picture.crop, Picture.mk.injEq]
  refine ⟨?_, ?_, ?_⟩
  · funext b
    rw [text_resize]
    simp only [UInt32.lt_iff_toNat_lt, UInt32.toNat_min]
  · exact UInt32.toNat_min rows maxRows
  · exact UInt32.toNat_min cols maxCols

/-- A write succeeds on the picture exactly when it does on the sheet. -/
theorem picture_write (s : Sheet) (a : Address) (t : String) :
    (s.write a t).toOption.map picture = s.picture.write? a t := by
  by_cases ha : a.InLimits
  · have hout : ¬ (maxRows ≤ a.row ∨ maxCols ≤ a.col) := by
      rintro (h | h)
      · exact UInt32.not_lt.mpr h ha.1
      · exact UInt32.not_lt.mpr h ha.2
    rw [write_of_inLimits s ha, Picture.write?, if_neg hout, ← picture_store s ha]
    rfl
  · have hout : maxRows ≤ a.row ∨ maxCols ≤ a.col := by
      by_contra hc
      rw [not_or, UInt32.not_le, UInt32.not_le] at hc
      exact ha hc
    rcases write_of_not_inLimits s ha t with ⟨e, he⟩
    rw [he, Picture.write?, if_pos hout]
    rfl

/-- One change of a sheet and of its picture. Both fail together, and otherwise
    the pictures agree. -/
theorem picture_change (s : Sheet) (c : Change) :
    (s.change c).toOption.map picture = s.picture.change? c := by
  cases c with
  | fresh name => exact congrArg some (picture_empty name defaultRows defaultCols)
  | empty name rows cols => exact congrArg some (picture_empty name rows cols)
  | rename name => rfl
  | write a t =>
      rw [change, Picture.change?, ← picture_write]
      rcases s.write a t with e | s' <;> rfl
  | writeA1 address t =>
      -- The name of the cell is read alike, and then this is the write above.
      rw [change, Picture.change?, writeA1]
      rcases Address.ofA1 address with e | a
      · rfl
      · rw [Except.toOption, Option.bind_some, ← picture_write]
        simp only [bind, Except.bind]
        rcases s.write a t with e | s' <;> rfl
  | clear a => exact congrArg some (picture_clear s a)
  | clearA1 address =>
      rw [change, Picture.change?, clearA1]
      rcases Address.ofA1 address with e | a
      · rfl
      · exact congrArg some (picture_clear s a)
  | resize rows cols => exact congrArg some (picture_resize s rows cols)

/-- On the picture an attempt that fails leaves everything as it was, too. -/
theorem picture_settle (s : Sheet) (c : Change) :
    (s.settle (s.change c)).picture = (s.picture.change? c).getD s.picture := by
  rw [← picture_change]
  rcases s.change c with e | s' <;> rfl

/-- A run of changes is the same run on the picture. -/
theorem picture_runChanges (s : Sheet) (changes : List Change) :
    (s.runChanges changes).picture = s.picture.run changes := by
  -- The sheet and its picture go side by side through the history.
  induction changes generalizing s with
  | nil => rfl
  | cons c changes ih =>
      rw [runChanges, List.foldl_cons, Picture.run, List.foldl_cons, ← picture_settle]
      exact ih (s.settle (s.change c))

theorem cellCount_eq_ncard {s : Sheet} (hs : s.Valid) :
    s.cellCount = {a | s.text a ≠ ""}.ncard := by
  -- Exactly the stored cells are seen to hold something, and no key comes twice.
  have hset : {a | s.text a ≠ ""} = (s.cells.keys.toFinset : Set Address) := by
    ext a
    simp only [← mem_cells_iff_text s hs.nonempty, Set.mem_ofPred_eq, List.coe_toFinset,
      Std.ExtTreeMap.mem_keys]
  rw [hset, Set.ncard_coe_finset, List.toFinset_card_of_nodup Std.ExtTreeMap.nodup_keys,
    Std.ExtTreeMap.length_keys, cellCount]

/-- A sheet shows after any history what the picture shows that went through
    the same one, and the next change fails for both or leads to the same
    picture. Its count and its used range are those of what is seen, in
    whatever order the cells are visited. -/
theorem runChanges_refines (name : String) (rows cols : UInt32) (changes : List Change) :
    let s := (empty name rows cols).runChanges changes
    let p := (Picture.blank rows.toNat cols.toNat).run changes
    s.picture = p ∧
      (∀ c, (s.change c).toOption.map picture = p.change? c) ∧
      s.cellCount = {a | p.text a ≠ ""}.ncard ∧
      (s.usedRange? = none ↔ ∀ a, p.text a = "") ∧
      (∀ r, s.usedRange? = some r ↔ r.IsHull {a | p.text a ≠ ""}) ∧
      ∀ a rest, (∀ b, b ∈ a :: rest ↔ p.text b ≠ "") →
        s.usedRange? = some (rest.foldl Range.cover (.single a)) := by
  intro s p
  have hpicture : s.picture = p := by
    rw [picture_runChanges, picture_empty]
  have htext : p.text = s.text := congrArg Picture.text hpicture.symm
  have hs : s.Valid := (valid_empty name rows cols).runChanges changes
  -- What is stored is read off what is seen, so count and range are too.
  have hmem : ∀ a, a ∈ s.cells ↔ p.text a ≠ "" := by
    intro a
    rw [htext, mem_cells_iff_text s hs.nonempty]
  have hset : {a | p.text a ≠ ""} = {a | a ∈ s.cells} := by
    ext a
    exact (hmem a).symm
  refine ⟨hpicture, ?_, ?_, ?_, ?_, ?_⟩
  · intro c
    rw [picture_change, hpicture]
  · rw [htext, cellCount_eq_ncard hs]
  · simp only [usedRange?_eq_none_iff, hmem, ne_eq, not_not]
  · intro r
    rw [hset, usedRange?_eq_some_iff]
  · intro a rest h
    exact usedRange?_eq_foldl_cover s a rest (fun b => (h b).trans (hmem b).symm)

/-- Growing, shrinking and growing again: one cell is left, and the write
    beyond the limits has left no trace. -/
theorem runChanges_refines_regrown :
    let changes : List Change :=
      [.write ⟨4, 9⟩ "5", .write ⟨1048576, 0⟩ "", .resize 3 3, .clearA1 "a1", .write ⟨6, 1⟩ "y"]
    ((empty "Small" 2 2).runChanges changes).usedRange? = some (.single ⟨6, 1⟩) := by
  intro changes
  refine (runChanges_refines "Small" 2 2 changes).2.2.2.2.2 ⟨6, 1⟩ [] (fun b => ?_)
  have htext : ((Picture.blank 2 2).run changes).text b =
      if ⟨6, 1⟩ = b then "y" else if ⟨0, 0⟩ = b then "" else
        if b.row.toNat < 3 ∧ b.col.toNat < 3 then (if ⟨4, 9⟩ = b then "5" else "") else "" := rfl
  change b ∈ [⟨6, 1⟩] ↔ ((Picture.blank 2 2).run changes).text b ≠ ""
  rw [htext, List.mem_singleton]
  by_cases hb : ⟨6, 1⟩ = b
  · simp only [hb, if_true, ne_eq, String.reduceEq, not_false_eq_true]
  · -- The cell that was written first lies outside the smaller size.
    have hgone : (if (⟨0, 0⟩ : Address) = b then "" else
        if b.row.toNat < 3 ∧ b.col.toNat < 3 then (if ⟨4, 9⟩ = b then "5" else "") else "") = "" := by
      split_ifs with h0 h3 h4
      · rfl
      · rw [← h4] at h3
        exact absurd h3.1 (by decide)
      · rfl
      · rfl
    rw [if_neg hb, hgone]
    exact ⟨fun hc => absurd hc.symm hb, fun hc => absurd rfl hc⟩

end Sheet

end Worksheet
