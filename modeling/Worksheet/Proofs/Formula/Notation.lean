import Worksheet.Proofs.Formula.Call
import Worksheet.Proofs.Formula.ReadSet
import Worksheet.Proofs.Range.Notation

/-!
# One Notation, Two Readers

That a formula reads the name of a cell as the cell of that name.

Cells are named in A1 notation outside of formulas and by references inside.
The two readers have nothing in common. Outside, marks and white space are
allowed, and a number that is too large is an error. Inside, neither is
allowed, numbers of any size are taken and kept as the largest word, and
whether there is such a cell is asked later.

What both come down to are letters and digits and the numbers they denote. A
text without marks and white space names a cell outside exactly when it is a
reference to a cell inside, and it is the same cell. Two such texts are the
corners of the same range.

## Main definitions

* `Address.Plain`: The texts in which both notations look alike.

## Theorems

* `Reference.names_ofParts_iff`: The cell that letters and digits name.
* `Address.written_iff_of_no_mark`: The names of cells among references.
* `Corners.range?_eq_ofCorners`: The range between the cells of two references.
* `Address.ofA1_and_ofText_of_plain`: Both readers agree on cells and ranges.
-/

namespace Worksheet

/-- A number too large for a word is as far from every index as the largest
    word. -/
theorem Reference.names_ofParts_iff {letters digits : List Char} {a : Address} :
    (ofParts letters digits).Names a ↔
      Numeral.decimalValue digits = a.row.toNat + 1 ∧ Column.value letters = a.col.toNat + 1 := by
  rw [Names, ofParts, Numeral.toNat_saturate_eq_succ_iff, Numeral.toNat_saturate_eq_succ_iff]

/-- A text that is split off to its end is a reference. -/
theorem Reference.split?_eq_some_nil_iff {cs : List Char} {r : Reference} :
    split? cs = some (r, []) ↔ Written cs r := by
  rw [← ofChars?_eq_some_iff, ofChars?]
  constructor
  · intro h
    rw [h]
  · intro h
    split at h
    · rename_i hsplit
      rw [hsplit, Option.some.inj h]
    · exact absurd h (by simp only [reduceCtorEq, not_false_eq_true])

namespace Address

/-- The text has no marks in it and no white space at its ends. -/
def Plain (text : String) : Prop :=
  '$' ∉ text.toList ∧ Text.IsTrimmed Text.isWhite text.toList

/-- Without marks the names of cells are the references to cells within the
    limits. -/
theorem written_iff_of_no_mark {cs : List Char} {a : Address} (h : '$' ∉ cs) :
    Written cs a ↔ ∃ r, Reference.Written cs r ∧ a.InLimits ∧ r.Names a := by
  constructor
  · rintro ⟨hmark, hmark', hletters, hdigits, ha, hcol, hrow⟩
    rename_i mark mark' letters digits
    have hnil : ∀ {mark : List Char}, IsMark mark → '$' ∉ mark → mark = [] := by
      rintro mark (rfl | rfl) hmem
      · rfl
      · exact absurd List.mem_cons_self hmem
    simp only [List.mem_append, not_or] at h
    rw [hnil hmark h.1, hnil hmark' h.2.2.1, List.nil_append, List.nil_append]
    exact ⟨_, .intro hletters hdigits, ha, Reference.names_ofParts_iff.mpr ⟨hrow, hcol⟩⟩
  · rintro ⟨r, ⟨hletters, hdigits⟩, ha, hnames⟩
    rename_i letters digits
    rcases Reference.names_ofParts_iff.mp hnames with ⟨hrow, hcol⟩
    exact .intro (.inl rfl) (.inl rfl) hletters hdigits ha hcol hrow

end Address

namespace Corners

/-- Within the limits, two corners cover what the range between their addresses
    contains. -/
theorem inLimits_and_covers_iff {c : Corners} {a b : Address} (ha : a.InLimits) (hb : b.InLimits)
    (hfirst : c.first.Names a) (hsecond : c.second.Names b) (x : Address) :
    x.InLimits ∧ c.Covers x ↔ (Range.ofCorners a b).contains x = true := by
  simp only [Address.InLimits, UInt32.lt_iff_toNat_lt] at ha hb
  simp only [Address.InLimits, UInt32.lt_iff_toNat_lt, Covers, Between, hfirst.1, hfirst.2,
    hsecond.1, hsecond.2, Range.contains_iff, Range.ofCorners, UInt32.le_iff_toNat_le,
    UInt32.toNat_min, UInt32.toNat_max]
  omega

/-- The range between two references to cells is the one with these cells as
    its corners. -/
theorem range?_eq_ofCorners {c : Corners} {a b : Address} (ha : a.InLimits)
    (hb : b.InLimits) (hfirst : c.first.Names a) (hsecond : c.second.Names b) :
    c.range? = some (.ofCorners a b) := by
  have hnormal := Range.normal_ofCorners a b
  have hcells := inLimits_and_covers_iff ha hb hfirst hsecond
  -- A corner is covered, so there is a range, and it has the same cells.
  rcases (exists_range?_iff c _).mpr ((hcells _).mpr hnormal.contains_first) with ⟨r, hr, -⟩
  have hsame : ∀ x, r.contains x = true ↔ (Range.ofCorners a b).contains x = true := by
    intro x
    rw [← hcells, ← exists_range?_iff, hr]
    simp only [Option.some.injEq, exists_eq_left']
  rw [hr, (normal_of_range? hr).eq_of_contains_iff hnormal hsame]

end Corners

namespace Address

/-- Letters and digits alone are plain. -/
theorem plain_of_all {text : String} (h : text.toList.all Char.isAlphanum = true) : Plain text := by
  rw [List.all_eq_true] at h
  refine ⟨fun hmem => absurd (h '$' hmem) (by decide), Text.isTrimmed_of_forall fun c hc => ?_⟩
  exact Text.isWhite_eq_false_of_isAlphanum (h c hc)

theorem Plain.ofA1_eq_ok_iff_written {text : String} (h : Plain text) {a : Address} :
    ofA1 text = .ok a ↔ Written text.toList a := by
  rw [ofA1_eq_ok_iff, h.2.trim_eq_self]

/-- The corners of a range that is written without white space are the texts it
    was put together of. -/
theorem Plain.exists_of_ofA1_append {text text' : String} (h : Plain text) (h' : Plain text')
    {r : Range} (hr : Range.ofA1 (text ++ ":" ++ text') = .ok r) :
    ∃ a b, Written text.toList a ∧ Written text'.toList b ∧ r = .ofCorners a b := by
  rcases Range.ofA1_append_colon_iff.mp hr with ⟨a, b, ha, hb, hr⟩
  exact ⟨a, b, h.ofA1_eq_ok_iff_written.mp ha, h'.ofA1_eq_ok_iff_written.mp hb, hr⟩

/-- A text without marks and without white space at its ends is read as the
    name of a cell exactly when it is scanned as a reference to that cell, and
    two such texts that are read as a range are scanned as the same range in
    the call of any function. -/
theorem ofA1_and_ofText_of_plain {text : String} (h : Plain text) :
    (∀ a, ofA1 text = .ok a ↔
      ∃ r, Reference.split? text.toList = some (r, []) ∧ r.address? = some a) ∧
    ∀ text' r, Plain text' → Range.ofA1 (text ++ ":" ++ text') = .ok r →
      ∀ (f : Aggregate) (name : String), name.toList.map Char.toUpper = f.name.toList →
        ∃ corners, Formula.ofText ("=" ++ name ++ "(" ++ text ++ ":" ++ text' ++ ")") =
          .ok (.aggregate f corners) ∧ corners.range? = some r := by
  constructor
  · intro a
    rw [h.ofA1_eq_ok_iff_written, written_iff_of_no_mark h.1]
    simp only [Reference.split?_eq_some_nil_iff, Reference.address?_eq_some_iff]
  · intro text' r h' hr f name hname
    rcases h.exists_of_ofA1_append h' hr with ⟨a, b, hfirst, hsecond, rfl⟩
    rcases (written_iff_of_no_mark h.1).mp hfirst with ⟨first, hfirst, ha, hnames⟩
    rcases (written_iff_of_no_mark h'.1).mp hsecond with ⟨second, hsecond, hb, hnames'⟩
    refine ⟨⟨first, second⟩, ?_, Corners.range?_eq_ofCorners ha hb hnames hnames'⟩
    have hchars : ("=" ++ name ++ "(" ++ text ++ ":" ++ text' ++ ")").toList =
        '=' :: (name.toList ++ '(' :: (text.toList ++ ':' :: (text'.toList ++ [')']))) := by
      simp only [String.toList_append, List.append_assoc]
      rfl
    -- The two texts are references, so the whole is a call without blanks.
    generalize text.toList = cs at hfirst hchars
    generalize text'.toList = cs' at hsecond hchars
    rcases hfirst with ⟨hletters, hdigits⟩
    rcases hsecond with ⟨hletters', hdigits'⟩
    refine Formula.ofText_of_callText ?_
    rw [hchars]
    exact Formula.callText_plain hname ⟨hletters, hdigits⟩ ⟨hletters', hdigits'⟩

/-- Leading zeros, letters of either case, and the last cell that there is as
    the corner that is named first. -/
theorem ofA1_and_ofText_of_plain_last :
    ofA1 "xFd01048576" = .ok ⟨1048575, 16383⟩ ∧
      (∃ r, Reference.split? "xFd01048576".toList = some (r, []) ∧
        r.address? = some ⟨1048575, 16383⟩) ∧
      ∃ corners, Formula.ofText "=mAx(xFd01048576:b2)" = .ok (.aggregate .max corners) ∧
        corners.range? = some ⟨⟨1, 1⟩, ⟨1048575, 16383⟩⟩ := by
  have hplain : Plain "xFd01048576" := plain_of_all (by decide)
  have hread : ofA1 "xFd01048576" = .ok ⟨1048575, 16383⟩ := by decide
  refine ⟨hread, ((ofA1_and_ofText_of_plain hplain).1 _).mp hread, ?_⟩
  exact (ofA1_and_ofText_of_plain hplain).2 "b2" _ (plain_of_all (by decide)) (by decide) .max "mAx" (by decide)

end Address

end Worksheet
