import Worksheet.Proofs.Address.Notation
import Worksheet.Range.Basic

/-!
# Ranges as Written

Which texts name a range in A1 notation.

A range is written as one cell, or as two with a colon between them, and white
space may stand around the whole and around either corner. The reader cuts at
the first colon. No name of a cell holds a colon, so in a text that it accepts
there is no other place to cut at, and the form says nothing about the first.

## Main definitions

* `Range.Written`: The texts that name a range, white space aside.

## Theorems

* `Address.colon_not_mem_of_trim`: There is no colon in the name of a cell.
* `ofTrimmed_eq_ok_iff`, `ofA1_eq_ok_iff`: Exactly these texts are read.
* `Written.of_append_colon`: The corners of a text that is cut at a colon.
* `ofA1_append_colon_iff`: A text with a colon is read by its two sides.
-/

namespace Worksheet

theorem Address.Written.colon_not_mem {cs : List Char} {a : Address} (h : Written cs a) :
    ':' ∉ cs := by
  intro hmem
  rcases h.mem hmem with hc | hc
  · exact absurd hc (by decide)
  · exact absurd hc (by decide)

theorem Address.colon_not_mem_of_trim {cs : List Char} {a : Address}
    (h : Written (Text.trim Text.isWhite cs) a) : ':' ∉ cs := by
  have hwhite : Text.isWhite ':' ≠ true := by decide
  rcases (Text.trim_eq_iff.mp (Eq.refl (Text.trim Text.isWhite cs))).2 with
    ⟨front, back, hcs, hfront, hback⟩
  rw [hcs, List.mem_append, List.mem_append]
  rintro (hmem | hmem | hmem)
  · exact hwhite (hfront _ hmem)
  · exact h.colon_not_mem hmem
  · exact hwhite (hback _ hmem)

namespace Range

/-- The text names a range: one cell, or two corners with a colon between
    them. -/
inductive Written : List Char → Range → Prop where
  | single {cs : List Char} {a : Address} (h : Address.Written cs a) : Written cs (.single a)
  | corners {x y : List Char} {a b : Address}
      (hx : Address.Written (Text.trim Text.isWhite x) a)
      (hy : Address.Written (Text.trim Text.isWhite y) b) :
      Written (x ++ ':' :: y) (.ofCorners a b)

/-- The characters that are read as a range are those that name one. -/
theorem ofTrimmed_eq_ok_iff {cs : List Char} {r : Range} :
    ofTrimmed cs = .ok r ↔ Written cs r := by
  constructor
  · intro h
    unfold ofTrimmed at h
    split at h
    · rw [Attempt.mapError_eq_ok_iff, Attempt.map_eq_ok_iff] at h
      rcases h with ⟨a, ha, rfl⟩
      exact .single (Address.ofTrimmed_eq_ok_iff.mp ha)
    · rename_i c right hright
      -- What is behind the stretch without a colon begins with one.
      have hcut := (Text.takeWhile_eq_and_dropWhile_eq_iff (· != ':') cs).mp ⟨rfl, hright⟩
      have hcolon : c = ':' := by
        have hc := hcut.2.2 c rfl
        rwa [bne_eq_false_iff_eq] at hc
      rcases Attempt.bind_eq_ok_iff.mp h with ⟨a, ha, hafter⟩
      rcases Attempt.bind_eq_ok_iff.mp hafter with ⟨b, hb, hr⟩
      rw [Attempt.mapError_eq_ok_iff, Address.ofTrimmed_eq_ok_iff] at ha hb
      rw [hcut.1, hcolon, ← Except.ok.inj hr]
      exact .corners ha hb
  · rintro (h | ⟨hx, hy⟩)
    · rename_i a
      have hend : cs.dropWhile (· != ':') = [] := by
        refine List.dropWhile_eq_nil_iff.mpr fun c hc => bne_iff_ne.mpr ?_
        rintro rfl
        exact h.colon_not_mem hc
      rw [ofTrimmed, hend, Attempt.mapError_eq_ok_iff, Attempt.map_eq_ok_iff]
      exact ⟨a, Address.ofTrimmed_eq_ok_iff.mpr h, rfl⟩
    · rename_i x y a b
      have hcut := Text.takeWhile_and_dropWhile_bne (Address.colon_not_mem_of_trim hx) y
      rw [ofTrimmed, hcut.2, hcut.1]
      refine Attempt.bind_eq_ok_iff.mpr ⟨a, ?_, Attempt.bind_eq_ok_iff.mpr ⟨b, ?_, rfl⟩⟩
      · exact Attempt.mapError_eq_ok_iff.mpr (Address.ofTrimmed_eq_ok_iff.mpr hx)
      · exact Attempt.mapError_eq_ok_iff.mpr (Address.ofTrimmed_eq_ok_iff.mpr hy)

theorem ofA1_eq_ok_iff {text : String} {r : Range} :
    ofA1 text = .ok r ↔ Written (Text.trim Text.isWhite text.toList) r :=
  ofTrimmed_eq_ok_iff

/-- Where a text that names a range has a colon, its corners are on the two
    sides of it. -/
theorem Written.of_append_colon {x y : List Char} {r : Range} (h : Written (x ++ ':' :: y) r) :
    ∃ a b, Address.Written (Text.trim Text.isWhite x) a ∧
      Address.Written (Text.trim Text.isWhite y) b ∧ r = .ofCorners a b := by
  generalize hcs : x ++ ':' :: y = cs at h
  rcases h with h | ⟨hx, hy⟩
  · exact absurd (hcs ▸ List.mem_append_right x List.mem_cons_self) h.colon_not_mem
  · rename_i x' y' a b
    rw [eq_comm, List.append_cons_inj_of_notMem (Address.colon_not_mem_of_trim hx)
      (Address.colon_not_mem_of_trim hy)] at hcs
    rcases hcs with ⟨rfl, -, rfl⟩
    exact ⟨a, b, hx, hy, rfl⟩

/-- The white space around a text is that around its outer sides. -/
theorem written_trim_iff {x y : List Char} {r : Range} :
    Written (Text.trim Text.isWhite (x ++ ':' :: y)) r ↔
      ∃ a b, Address.Written (Text.trim Text.isWhite x) a ∧
        Address.Written (Text.trim Text.isWhite y) b ∧ r = .ofCorners a b := by
  rw [Text.trim_append_cons (by decide), ← Text.trim_trimLeft, ← @Text.trim_trimRight _ y]
  constructor
  · exact Written.of_append_colon
  · rintro ⟨a, b, ha, hb, rfl⟩
    exact .corners ha hb

/-- A text with a colon is read as the range between what the two sides of it
    are read as. -/
theorem ofA1_append_colon_iff {x y : String} {r : Range} : ofA1 (x ++ ":" ++ y) = .ok r ↔
    ∃ a b, Address.ofA1 x = .ok a ∧ Address.ofA1 y = .ok b ∧ r = .ofCorners a b := by
  have hchars : (x ++ ":" ++ y).toList = x.toList ++ ':' :: y.toList := by
    rw [String.toList_append, String.toList_append, List.append_assoc]
    rfl
  simp only [ofA1_eq_ok_iff, hchars, written_trim_iff, Address.ofA1_eq_ok_iff]

end Range

end Worksheet
