import Worksheet.Proofs.Range.Notation
import Worksheet.Proofs.Range.Walk

/-!
# Reading and Printing Ranges

That reading a range and printing it undo each other.

A range is printed in one of two forms, as a cell or as two cells with a colon
between them, and both are texts that name it. A text that names a range need
not be the printed one: its corners may be any two opposite ones, in any order,
so that the range has its rows and columns from both sides. What is read is in
order on both axes and within the limits all the same, and that is all that
printing needs to be undone.

A colon commits a text to being two corners. Each side of it has to be the name
of a cell, and since no such name holds a colon there can only be one.

## Main definitions

* `Range.InLimits`: The range lies within the limits of a sheet.

## Theorems

* `ofCorners_comm`: Two corners may be named in either order.
* `Written.normal`, `Written.inLimits`: Ranges that are read are in order and
  within the limits.
* `Range.ofA1_a1`: A printed range is read back.
* `ofA1_inverse`: Reading and printing undo each other.
-/

namespace Worksheet

namespace Range

/-- Both corners lie within the limits of a sheet. -/
def InLimits (r : Range) : Prop :=
  r.first.InLimits ∧ r.last.InLimits

instance (r : Range) : Decidable r.InLimits :=
  inferInstanceAs (Decidable (_ ∧ _))

theorem ofCorners_comm (a b : Address) : ofCorners a b = ofCorners b a := by
  simp only [ofCorners, mk.injEq, Address.mk.injEq, ← UInt32.toNat_inj, UInt32.toNat_min,
    UInt32.toNat_max, Nat.min_comm, Nat.max_comm, and_self]

/-- Each coordinate of a corner is that of one of the two cells. -/
theorem inLimits_ofCorners {a b : Address} (ha : a.InLimits) (hb : b.InLimits) :
    (ofCorners a b).InLimits := by
  simp only [InLimits, Address.InLimits, ofCorners, UInt32.lt_iff_toNat_lt, UInt32.toNat_min,
    UInt32.toNat_max] at ha hb ⊢
  omega

theorem Written.normal {cs : List Char} {r : Range} (h : Written cs r) : r.Normal := by
  cases h with
  | @single _ a _ => exact ofCorners_self a ▸ normal_ofCorners a a
  | corners hx hy => exact normal_ofCorners _ _

theorem Written.inLimits {cs : List Char} {r : Range} (h : Written cs r) : r.InLimits := by
  cases h with
  | single ha => exact ⟨ha.inLimits, ha.inLimits⟩
  | corners hx hy => exact inLimits_ofCorners hx.inLimits hy.inLimits

/-- A printed range is read back. -/
theorem ofA1_a1 {r : Range} (h : r.Normal) (hr : r.InLimits) : ofA1 r.a1 = .ok r := by
  have hfirst := Address.ofA1_a1 hr.1
  rw [a1]
  by_cases hone : r.first = r.last
  · -- One cell is printed without a colon.
    rw [if_pos hone, ofA1_eq_ok_iff]
    have hsingle : single r.first = r :=
      calc single r.first = ofCorners r.first r.last := by rw [← hone, ofCorners_self]
        _ = r := h.ofCorners_eq
    exact hsingle ▸ .single (Address.ofA1_eq_ok_iff.mp hfirst)
  · rw [if_neg hone]
    exact ofA1_append_colon_iff.mpr
      ⟨r.first, r.last, hfirst, Address.ofA1_a1 hr.2, h.ofCorners_eq.symm⟩

/-- A range that is in order and within the limits is read as it was printed.
    What a text is read as is in order and within the limits, it is read again
    when it is printed, and it is what the text is read as with its sides
    exchanged. A text with a colon in it, the first one or another, is not read
    unless both sides of that colon are addresses. -/
theorem ofA1_inverse (r : Range) (text : String) :
    (r.Normal → r.InLimits → ofA1 r.a1 = .ok r) ∧
    (ofA1 text = .ok r → (r.Normal ∧ r.InLimits) ∧ ofA1 r.a1 = .ok r ∧
      ∀ x y, text = x ++ ":" ++ y → ofA1 (y ++ ":" ++ x) = .ok r) ∧
    ∀ x y, text = x ++ ":" ++ y →
      ((∃ e, Address.ofA1 x = .error e) ∨ ∃ e, Address.ofA1 y = .error e) →
        ∃ e, ofA1 text = .error e := by
  refine ⟨ofA1_a1, fun hread => ?_, ?_⟩
  · have hwritten := ofA1_eq_ok_iff.mp hread
    refine ⟨⟨hwritten.normal, hwritten.inLimits⟩, ofA1_a1 hwritten.normal hwritten.inLimits, ?_⟩
    rintro x y rfl
    rcases ofA1_append_colon_iff.mp hread with ⟨a, b, ha, hb, hr⟩
    exact ofA1_append_colon_iff.mpr ⟨b, a, hb, ha, hr.trans (ofCorners_comm a b)⟩
  · rintro x y rfl hside
    cases htext : ofA1 (x ++ ":" ++ y) with
    | error e => exact ⟨e, rfl⟩
    | ok r =>
        rcases ofA1_append_colon_iff.mp htext with ⟨a, b, ha, hb, -⟩
        rw [ha, hb] at hside
        simp only [reduceCtorEq, exists_false, or_self] at hside

/-- A range whose corners are named crosswise, with white space, marks, small
    letters and a zero in front. -/
theorem ofA1_inverse_crossed :
    ofA1 " $c$2 :\ta010 " = .ok ⟨⟨1, 0⟩, ⟨9, 2⟩⟩ ∧ a1 ⟨⟨1, 0⟩, ⟨9, 2⟩⟩ = "A2:C10" ∧
      ofA1 "A2:C10" = .ok ⟨⟨1, 0⟩, ⟨9, 2⟩⟩ ∧ ofA1 "\ta010 : $c$2 " = .ok ⟨⟨1, 0⟩, ⟨9, 2⟩⟩ ∧
      ∃ e, ofA1 "A1:B2:C3" = .error e := by
  have hread : ofA1 " $c$2 :\ta010 " = .ok ⟨⟨1, 0⟩, ⟨9, 2⟩⟩ := by decide
  have hprinted : a1 ⟨⟨1, 0⟩, ⟨9, 2⟩⟩ = "A2:C10" := by decide +kernel
  rcases (ofA1_inverse _ _).2.1 hread with ⟨-, hback, hswapped⟩
  refine ⟨hread, hprinted, hprinted ▸ hback, hswapped " $c$2 " "\ta010 " rfl, ?_⟩
  exact (ofA1_inverse default _).2.2 "A1" "B2:C3" rfl (.inr ⟨_, rfl⟩)

end Range

end Worksheet
