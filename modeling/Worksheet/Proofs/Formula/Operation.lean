import Worksheet.Proofs.Attempt
import Worksheet.Proofs.Formula.Faults

/-!
# Operations on Numbers

That it makes no difference whether the numbers of an operation are written in
the formula or in the cells that it refers to.

The sign that splits a body is the first one behind its first character. A
number can begin with a sign, and with an exponent it can hold another one, so
the text on the left must hold none behind its first character, while the text
on the right may hold any. No text of a number begins with a letter. So it can
neither be the name of a cell nor begin a call, and it is read by the same
reader as the text of a cell.

## Theorems

* `Formula.signAt_length_iff`: When a sign splits a body where it stands.
* `Formula.ofBody_of_isFirstSign`, `Formula.ofBody_of_sides`: The reading of a
  body split by a sign.
* `Number.not_isAlpha_of_ofChars?`: No number begins with a letter.
* `Grid.value_of_numbers`: Numbers in a formula and numbers in cells.
-/

namespace Worksheet

/-- No number begins with a letter. -/
theorem Number.not_isAlpha_of_ofChars? {cs : List Char} {x : Number} (h : ofChars? cs = some x) :
    ∀ c ∈ (Text.trim Text.isBlank cs).head?, c.isAlpha = false := by
  intro c hc
  by_contra halpha
  rw [Bool.not_eq_false] at halpha
  have hcomma : c ≠ ',' := by
    rintro rfl
    exact absurd halpha (by decide)
  have hlead : ¬ IsLead c := by
    rintro (hdigit | rfl | rfl | rfl)
    · rw [Text.isAlpha_eq_false_of_isDigit hdigit] at halpha
      exact Bool.false_ne_true halpha
    · exact absurd halpha (by decide)
    · exact absurd halpha (by decide)
    · exact absurd halpha (by decide)
  rw [ofChars?_eq_none hc hcomma hlead] at h
  exact absurd h (by simp only [reduceCtorEq, not_false_eq_true])

/-- A reference begins with a letter. -/
theorem Reference.Written.exists_head {cs : List Char} {r : Reference} (h : Written cs r) :
    ∃ c ∈ cs.head?, c.isAlpha = true := by
  rcases h with ⟨⟨hne, hletters⟩, -⟩
  rename_i letters digits
  refine ⟨letters.head hne, ?_, hletters _ (List.head_mem hne)⟩
  rw [List.head?_append_of_ne_nil _ hne, List.head?_eq_some_head hne, Option.mem_some_iff]

/-- An operand that reads as a number is that number. -/
theorem Operand.ofChars_of_number {cs : List Char} {x : Number}
    (htrim : Text.trim Text.isBlank cs = cs) (h : Number.ofChars? cs = some x) :
    ofChars cs = .number x := by
  refine written_iff.mpr (.number (fun r hr => ?_) h)
  rcases hr.exists_head with ⟨c, hc, halpha⟩
  rw [Number.not_isAlpha_of_ofChars? h c (htrim.symm ▸ hc)] at halpha
  exact Bool.false_ne_true halpha

namespace Formula

variable {left right : List Char} {op : Operator}

theorem drop_sign : (left ++ op.sign :: right).drop (left.length + 1) = right := by
  rw [List.drop_length_add_append, List.drop_succ_cons, List.drop_zero]

/-- A body that does not begin with a letter is no call. -/
theorem not_isCall_of_head? {body : List Char} (h : ∀ c ∈ body.head?, c.isAlpha = false) :
    ∀ f argument, ¬ IsCall body f argument := by
  rintro f argument ⟨hname, -, -⟩
  rename_i name
  have hne := Aggregate.ne_nil_of_name hname
  have hhead := h (name.head hne) (by
    rw [List.head?_append_of_ne_nil _ hne, List.head?_eq_some_head hne, Option.mem_some_iff])
  rw [Aggregate.isAlpha_of_mem_name hname _ (List.head_mem hne)] at hhead
  exact Bool.false_ne_true hhead.symm

/-- A sign splits a body where it stands if there is something on both sides of
    it and, blanks aside, no line break. -/
theorem signAt_length_iff : SignAt (left ++ op.sign :: right) left.length op ↔
    (left ≠ [] ∧ right ≠ []) ∧
      (∀ c ∈ Text.trim Text.isBlank left, Text.isLineBreak c = false) ∧
      ∀ c ∈ Text.trim Text.isBlank right, Text.isLineBreak c = false := by
  have hlength : left.length + 1 < (left ++ op.sign :: right).length ↔ right ≠ [] := by
    rw [List.length_append, List.length_cons, ← List.length_pos_iff]
    omega
  constructor
  · intro h
    have hleft := h.left
    have hright := h.right
    rw [List.take_left] at hleft
    rw [drop_sign] at hright
    exact ⟨⟨List.length_pos_iff.mp h.pos, hlength.mp h.lt⟩, hleft, hright⟩
  · rintro ⟨⟨hleft, hright⟩, hline, hline'⟩
    refine ⟨?_, List.length_pos_iff.mpr hleft, hlength.mpr hright, ?_, ?_⟩
    · rw [List.getElem?_append_right (Nat.le_refl _), Nat.sub_self, List.getElem?_cons_zero]
    · rwa [List.take_left]
    · rwa [drop_sign]

/-- A body that is no call is read as an operation on the two sides of its first
    sign. -/
theorem ofBody_of_isFirstSign (htrim : Text.IsTrimmed Text.isBlank (left ++ op.sign :: right))
    (hcall : ∀ f argument, ¬ IsCall (left ++ op.sign :: right) f argument)
    (hsign : IsFirstSign (left ++ op.sign :: right) left.length op) :
    ofBody (left ++ op.sign :: right) =
      .ok (.binary op (Operand.ofChars (Text.trim Text.isBlank left))
        (Operand.ofChars (Text.trim Text.isBlank right))) := by
  refine (ofBody_eq_iff_written htrim).mpr (.binary hcall hsign ?_ ?_)
  · rw [List.take_left]
    exact Operand.written_iff.mp rfl
  · rw [drop_sign]
    exact Operand.written_iff.mp rfl

/-- A sign at the first place of a body splits nothing. -/
theorem isFirstSign_of_tail (hleft : ∀ c ∈ left.tail, Operator.ofSign? c = none)
    (hsign : SignAt (left ++ op.sign :: right) left.length op) :
    IsFirstSign (left ++ op.sign :: right) left.length op := by
  refine ⟨hsign, fun j hj op' hearlier => ?_⟩
  have hat : left[j]? = some op'.sign := by
    rw [← hearlier.sign, List.getElem?_append_left hj]
  have hmem : op'.sign ∈ left.tail := by
    rw [← Nat.succ_pred_eq_of_pos hearlier.pos, Nat.succ_eq_add_one, ← List.getElem?_tail] at hat
    exact List.mem_of_getElem? hat
  have hnone := hleft _ hmem
  rw [Operator.ofSign?_eq_some_iff.mpr rfl] at hnone
  exact absurd hnone (by simp only [reduceCtorEq, not_false_eq_true])

/-- A body is split at a sign with no other sign in front of it but in the first
    place, when it begins with neither a blank nor a letter. -/
theorem ofBody_of_sides (hleft : left ≠ []) (hright : right ≠ [])
    (hhead : ∀ c ∈ left.head?, Text.isBlank c = false ∧ c.isAlpha = false)
    (hlast : ∀ c ∈ right.getLast?, Text.isBlank c = false)
    (hsign : ∀ c ∈ left.tail, Operator.ofSign? c = none)
    (hline : ∀ c ∈ Text.trim Text.isBlank left ++ Text.trim Text.isBlank right,
      Text.isLineBreak c = false) (op : Operator) :
    Text.IsTrimmed Text.isBlank (left ++ op.sign :: right) ∧
      ofBody (left ++ op.sign :: right) =
        .ok (.binary op (Operand.ofChars (Text.trim Text.isBlank left))
          (Operand.ofChars (Text.trim Text.isBlank right))) := by
  have hfront : ∀ c ∈ (left ++ op.sign :: right).head?,
      Text.isBlank c = false ∧ c.isAlpha = false := by
    rw [List.head?_append_of_ne_nil _ hleft]
    exact hhead
  have htrim : Text.IsTrimmed Text.isBlank (left ++ op.sign :: right) := by
    refine ⟨fun c hc => (hfront c hc).1, ?_⟩
    rw [List.getLast?_append_of_ne_nil _ (List.cons_ne_nil _ _), List.getLast?_cons_of_ne_nil hright]
    exact hlast
  rw [List.forall_mem_append] at hline
  -- Past its first character the left side has no sign, so this one is the first.
  have hfirst : IsFirstSign (left ++ op.sign :: right) left.length op :=
    isFirstSign_of_tail hsign (signAt_length_iff.mpr ⟨⟨hleft, hright⟩, hline⟩)
  exact ⟨htrim, ofBody_of_isFirstSign htrim (not_isCall_of_head? fun c hc => (hfront c hc).2) hfirst⟩

/-- Two numbers with a sign between them are read as the operation on them. -/
theorem ofBody_of_numbers {x y : Number} (hleft : Text.trim Text.isBlank left = left)
    (hright : Text.trim Text.isBlank right = right) (hx : Number.ofChars? left = some x)
    (hy : Number.ofChars? right = some y) (hsign : ∀ c ∈ left.tail, Operator.ofSign? c = none)
    (hline : ∀ c ∈ left ++ right, Text.isLineBreak c = false) (op : Operator) :
    Text.IsTrimmed Text.isBlank (left ++ op.sign :: right) ∧
      ofBody (left ++ op.sign :: right) = .ok (.binary op (.number x) (.number y)) := by
  have hne : ∀ {cs : List Char} {z : Number}, Number.ofChars? cs = some z → cs ≠ [] := by
    rintro cs z hz rfl
    have hnone : Number.ofChars? [] = none := by decide
    rw [hnone] at hz
    exact absurd hz (by simp only [reduceCtorEq, not_false_eq_true])
  have hl : Text.IsTrimmed Text.isBlank left := hleft ▸ Text.isTrimmed_trim
  have hr : Text.IsTrimmed Text.isBlank right := hright ▸ Text.isTrimmed_trim
  have hhead : ∀ c ∈ left.head?, Text.isBlank c = false ∧ c.isAlpha = false := by
    refine fun c hc => ⟨hl.1 c hc, Number.not_isAlpha_of_ofChars? hx c ?_⟩
    rwa [hleft]
  have hbody := ofBody_of_sides (hne hx) (hne hy) hhead hr.2 hsign
    (by rw [hleft, hright]; exact hline) op
  rw [hleft, hright, Operand.ofChars_of_number hleft hx, Operand.ofChars_of_number hright hy]
    at hbody
  exact hbody

end Formula

namespace Grid

/-- The value of an operation on the first two cells of the first row. -/
theorem value_of_first_cells (op : Operator) (g : Grid) {x y : Number}
    (hx : Number.ofText? (g.text ⟨0, 0⟩) = some x) (hy : Number.ofText? (g.text ⟨0, 1⟩) = some y) :
    g.value ("=A1" ++ String.singleton op.sign ++ "B1") = op.apply x y := by
  have hformula : Formula.ofText ("=A1" ++ String.singleton op.sign ++ "B1") =
      .ok (.binary op (.reference ⟨1, 1⟩) (.reference ⟨2, 1⟩)) := by
    cases op <;> exact Attempt.toOption_eq_some_iff.mp (by decide +kernel)
  have hA : Reference.address? ⟨1, 1⟩ = some ⟨0, 0⟩ := by decide
  have hB : Reference.address? ⟨2, 1⟩ = some ⟨0, 1⟩ := by decide
  simp only [value, hformula, valueOf, number, hA, hB, Option.bind_some, numberAt?, hx, hy,
    Option.getD_some]

/-- An operation on two numbers is worth the same whether they are written in
    the formula or in the two cells that it refers to. So it divides by zero in
    both or in neither, and it does if it is a division and the number on the
    right is one of the two zeros. -/
theorem value_of_numbers {l r : String} (hl : Text.trim Text.isBlank l.toList = l.toList)
    (hr : Text.trim Text.isBlank r.toList = r.toList) (hleft : (Number.ofText? l).isSome = true)
    (hright : (Number.ofText? r).isSome = true)
    (hsign : ∀ c ∈ l.toList.tail, Operator.ofSign? c = none)
    (hline : ∀ c ∈ l.toList ++ r.toList, Text.isLineBreak c = false) (op : Operator) (g g' : Grid)
    (hA : g'.text ⟨0, 0⟩ = l) (hB : g'.text ⟨0, 1⟩ = r) :
    g.value ("=" ++ l ++ String.singleton op.sign ++ r) =
        g'.value ("=A1" ++ String.singleton op.sign ++ "B1") ∧
      (g.value ("=" ++ l ++ String.singleton op.sign ++ r) = .fault .divisionByZero ↔
        op = .div ∧ ∃ negative, Number.ofText? r = some (.zero negative)) := by
  rcases Option.isSome_iff_exists.mp hleft with ⟨x, hx⟩
  rcases Option.isSome_iff_exists.mp hright with ⟨y, hy⟩
  have htext : ("=" ++ l ++ String.singleton op.sign ++ r).toList =
      [] ++ '=' :: (l.toList ++ op.sign :: r.toList) := by
    simp only [String.toList_append, String.toList_singleton, List.append_assoc]
    rfl
  have hvalue : g.value ("=" ++ l ++ String.singleton op.sign ++ r) = op.apply x y := by
    rcases Formula.ofBody_of_numbers hl hr hx hy hsign hline op with ⟨htrim, hbody⟩
    rw [value, Formula.ofText_eq_ofBody (fun c hc => absurd hc List.not_mem_nil) htext,
      htrim.trim_eq_self, hbody]
    rfl
  refine ⟨?_, ?_⟩
  · rw [hvalue, value_of_first_cells op g' (hA ▸ hx) (hB ▸ hy)]
  · rw [hvalue, Operator.apply_eq_fault_iff, Number.isZero_iff, hy]
    simp only [and_true, Option.some.injEq]

/-- A sign, commas and an exponent on the left, and a negative zero with the sign
    of its exponent on the right. -/
theorem value_of_numbers_signs :
    let g : Grid := ⟨fun a => if a = ⟨0, 0⟩ then "-,1E2," else "-0.e-5", none⟩
    (∀ c ∈ "-,1E2,".toList.tail, Operator.ofSign? c = none) ∧
      Number.ofText? "-0.e-5" = some (.zero true) ∧
      g.value "=-,1E2,/-0.e-5" = g.value "=A1/B1" ∧
      g.value "=-,1E2,/-0.e-5" = .fault .divisionByZero := by
  intro g
  have hsign : ∀ c ∈ "-,1E2,".toList.tail, Operator.ofSign? c = none := by
    have hall : "-,1E2,".toList.tail.all (fun c => (Operator.ofSign? c).isNone) = true := by decide
    exact fun c hc => Option.isNone_iff_eq_none.mp (List.all_eq_true.mp hall c hc)
  have hline : ∀ c ∈ "-,1E2,".toList ++ "-0.e-5".toList, Text.isLineBreak c = false := by
    have hany : ("-,1E2,".toList ++ "-0.e-5".toList).any Text.isLineBreak = false := by decide
    exact fun c hc => Bool.eq_false_iff.mpr (List.any_eq_false.mp hany c hc)
  have hzero : Number.ofText? "-0.e-5" = some (.zero true) := by decide +kernel
  rcases value_of_numbers (by decide) (by decide) (by decide +kernel) (by decide +kernel) hsign
    hline .div g g rfl rfl with ⟨hsame, hfault⟩
  exact ⟨hsign, hzero, hsame, hfault.mpr ⟨rfl, true, hzero⟩⟩

end Grid

end Worksheet
