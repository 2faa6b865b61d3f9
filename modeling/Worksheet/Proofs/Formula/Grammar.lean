import Worksheet.Formula.Reader
import Worksheet.Proofs.Formula.Reference

/-!
# The Grammar of Formulas

Which texts are formulas, which formula each of them is, and why the others
are none.

The grammar is said by what a text looks like and not by how it is read. A
call is a name with an argument in parentheses behind it; an operation is a
sign at some place with a side to its left and one to its right. The forms
overlap: a call can hold signs, and a number can begin with one. So each form
is only open to bodies that have none of the forms before it, and of several
signs the first one counts.

With that order every text has exactly one reading, a formula or the reason
why it has none, and `ofText_eq_iff_written` says that the reader finds it.

## Main definitions

* `Formula.IsCall`: A body is a call of an aggregate with an argument.
* `Formula.SignAt`, `Formula.IsFirstSign`: The signs that split a body.
* `Formula.LooksLikeCall`: A body begins with a name and a parenthesis.
* `Operand.Written`: The texts of operands.
* `Formula.BodyWritten`, `Formula.Written`: The readings of bodies and texts.

## Theorems

* `splitCall?_eq_some_iff`: A call is found in exactly the bodies that are one.
* `splitOperation?_eq_some_iff`: The first sign is found, and only it.
* `Operand.written_iff`: Every text is the text of one operand.
* `bodyWritten_ofBody`, `BodyWritten.ofBody_eq`: What the reader finds is a
  reading, and there is no other.
* `ofBody_eq_iff_written`: Every body has the one reading that the reader finds.
* `ofText_eq_iff_written`: So has every text.
-/

namespace Worksheet

namespace Formula

/-- The body is a call of an aggregate: its name in letters of either case and,
    right behind it, an argument in parentheses that is not empty and does not
    hold the closing one. -/
inductive IsCall : List Char → Aggregate → List Char → Prop where
  | intro {f : Aggregate} {name argument : List Char}
      (hname : name.map Char.toUpper = f.name.toList) (hne : argument ≠ [])
      (hopen : ')' ∉ argument) : IsCall (name ++ '(' :: (argument ++ [')'])) f argument

/-- The sign of an operation stands at a place of a body that is neither the
    first nor the last, and blanks next to it aside there is no line break on
    either side. -/
structure SignAt (body : List Char) (i : Nat) (op : Operator) : Prop where
  /-- The sign stands there. -/
  sign : body[i]? = some op.sign
  /-- The place is not the first. -/
  pos : 0 < i
  /-- The place is not the last. -/
  lt : i + 1 < body.length
  /-- The left side is in one line. -/
  left : ∀ c ∈ Text.trim Text.isBlank (body.take i), Text.isLineBreak c = false
  /-- The right side is in one line. -/
  right : ∀ c ∈ Text.trim Text.isBlank (body.drop (i + 1)), Text.isLineBreak c = false

/-- No sign before this one splits the body. -/
def IsFirstSign (body : List Char) (i : Nat) (op : Operator) : Prop :=
  SignAt body i op ∧ ∀ j < i, ∀ op', ¬ SignAt body j op'

/-- The body begins with a name of some function, a letter to begin with, and
    an opening parenthesis right behind it. -/
def LooksLikeCall (body name : List Char) : Prop :=
  ∃ rest, body = name ++ '(' :: rest ∧ (∀ c ∈ name, isNameChar c = true) ∧
    ∃ c ∈ name.head?, c.isAlpha = true

end Formula

/-- The text of one side of an operation, and what it stands for. -/
inductive Operand.Written : List Char → Operand → Prop where
  | reference {cs : List Char} {r : Reference} (h : Reference.Written cs r) :
      Written cs (.reference r)
  | number {cs : List Char} {x : Number} (hreference : ∀ r, ¬ Reference.Written cs r)
      (h : Number.ofChars? cs = some x) : Written cs (.number x)
  | invalid {cs : List Char} (hreference : ∀ r, ¬ Reference.Written cs r)
      (h : Number.ofChars? cs = none) : Written cs (.invalid (String.ofList cs))

namespace Formula

/-- The reading of a body without blanks at its ends. -/
inductive BodyWritten (body : List Char) : Except Error Formula → Prop where
  | aggregate {f : Aggregate} {argument : List Char} {corners : Corners}
      (hcall : IsCall body f argument)
      (h : Corners.Written (Text.trim Text.isBlank argument) corners) :
      BodyWritten body (.ok (.aggregate f corners))
  | malformedRange {f : Aggregate} {argument : List Char} (hcall : IsCall body f argument)
      (h : ∀ corners, ¬ Corners.Written (Text.trim Text.isBlank argument) corners) :
      BodyWritten body
        (.error (.malformedRange (String.ofList (Text.trim Text.isBlank argument))))
  | binary {i : Nat} {op : Operator} {left right : Operand}
      (hcall : ∀ f argument, ¬ IsCall body f argument) (hsign : IsFirstSign body i op)
      (hleft : Operand.Written (Text.trim Text.isBlank (body.take i)) left)
      (hright : Operand.Written (Text.trim Text.isBlank (body.drop (i + 1))) right) :
      BodyWritten body (.ok (.binary op left right))
  | number {x : Number} (hcall : ∀ f argument, ¬ IsCall body f argument)
      (hsign : ∀ i op, ¬ SignAt body i op) (h : Number.ofChars? body = some x) :
      BodyWritten body (.ok (.number x))
  | empty (h : body = []) : BodyWritten body (.error .empty)
  | unknownFunction {name : List Char} (hcall : ∀ f argument, ¬ IsCall body f argument)
      (hsign : ∀ i op, ¬ SignAt body i op) (hnumber : Number.ofChars? body = none)
      (h : LooksLikeCall body name) :
      BodyWritten body (.error (.unknownFunction (String.ofList (name.map Char.toUpper))))
  | unrecognized (hcall : ∀ f argument, ¬ IsCall body f argument)
      (hsign : ∀ i op, ¬ SignAt body i op) (hnumber : Number.ofChars? body = none)
      (hne : body ≠ []) (h : ∀ name, ¬ LooksLikeCall body name) :
      BodyWritten body (.error (.unrecognized (String.ofList body)))

/-- The reading of a text: blanks aside it begins with an equals sign and the
    rest is a body, or it is shown as it is. -/
inductive Written (text : String) : Except Error Formula → Prop where
  | literal (h : (Text.trim Text.isBlank text.toList).head? ≠ some '=') :
      Written text (.ok (.literal text))
  | body {rest : List Char} {r : Except Error Formula}
      (h : Text.trim Text.isBlank text.toList = '=' :: rest)
      (hbody : BodyWritten (Text.trim Text.isBlank rest) r) : Written text r

end Formula

/-- A text names an aggregate exactly when its capitals are the name. -/
theorem Aggregate.ofName?_eq_some_iff {cs : List Char} {f : Aggregate} :
    ofName? cs = some f ↔ cs.map Char.toUpper = f.name.toList := by
  rw [ofName?]
  constructor
  · intro h
    have hname := List.find?_some h
    exact (beq_iff_eq.mp hname).symm
  · intro h
    rw [h]
    cases f <;> decide

/-- All four names have three letters. -/
theorem Aggregate.length_eq_three {f : Aggregate} {name : List Char}
    (h : name.map Char.toUpper = f.name.toList) : name.length = 3 := by
  have hlength : f.name.toList.length = 3 := by
    cases f <;> decide
  rw [← hlength, ← h, List.length_map]

theorem Aggregate.isAlpha_of_mem_name {f : Aggregate} {name : List Char}
    (h : name.map Char.toUpper = f.name.toList) : ∀ c ∈ name, c.isAlpha = true := by
  intro c hc
  have hletters : f.name.toList.all Char.isAlpha = true := by
    cases f <;> decide
  have hupper : c.toUpper ∈ f.name.toList := h ▸ List.mem_map_of_mem hc
  exact Text.isAlpha_of_isAlpha_toUpper (List.all_eq_true.mp hletters _ hupper)

theorem Aggregate.isBlank_eq_false_of_mem_name {f : Aggregate} {name : List Char}
    (h : name.map Char.toUpper = f.name.toList) : ∀ c ∈ name, Text.isBlank c = false := by
  intro c hc
  have halpha := isAlpha_of_mem_name h c hc
  exact Text.isBlank_eq_false_of_isAlphanum (Text.isAlphanum_of_isAlpha halpha)

theorem Aggregate.ne_nil_of_name {f : Aggregate} {name : List Char}
    (h : name.map Char.toUpper = f.name.toList) : name ≠ [] := by
  have hlength := length_eq_three h
  exact List.ne_nil_of_length_pos (by omega)

/-- Each operator has one sign. -/
theorem Operator.ofSign?_eq_some_iff {c : Char} {op : Operator} :
    ofSign? c = some op ↔ c = op.sign := by
  constructor
  · intro h
    unfold ofSign? at h
    split at h <;> cases h <;> rfl
  · rintro rfl
    cases op <;> rfl

/-- The two texts of an operand that is no reference differ in what the number
    reader says. -/
theorem Operand.written_iff {cs : List Char} {o : Operand} : ofChars cs = o ↔ Written cs o := by
  have hnone : Reference.ofChars? cs = none ↔ ∀ r, ¬ Reference.Written cs r :=
    Attempt.eq_none_iff_of_eq_some_iff fun _ => Reference.ofChars?_eq_some_iff
  constructor
  · rintro rfl
    rw [ofChars]
    cases hreference : Reference.ofChars? cs with
    | some r => exact .reference (Reference.ofChars?_eq_some_iff.mp hreference)
    | none =>
        cases hnumber : Number.ofChars? cs with
        | some x => exact .number (hnone.mp hreference) hnumber
        | none => exact .invalid (hnone.mp hreference) hnumber
  · intro h
    rw [ofChars]
    cases h with
    | reference h => rw [Reference.ofChars?_eq_some_iff.mpr h]
    | number hreference h => rw [hnone.mpr hreference, h]
    | invalid hreference h => rw [hnone.mpr hreference, h]

namespace Formula

/-- A body is split as a call exactly when it is one. -/
theorem splitCall?_eq_some_iff {body argument : List Char} {f : Aggregate} :
    splitCall? body = some (f, argument) ↔ IsCall body f argument := by
  constructor
  · intro h
    rw [splitCall?] at h
    split at h
    · rename_i f' rest hname hrest
      by_cases hargument : rest.getLast? = some ')' ∧ rest.dropLast ≠ [] ∧ ')' ∉ rest.dropLast
      · simp only [if_pos hargument, Option.some.injEq, Prod.mk.injEq] at h
        rcases h with ⟨rfl, rfl⟩
        have hbody : body = body.take 3 ++ '(' :: (rest.dropLast ++ [')']) := by
          rw [List.dropLast_append_getLast? _ hargument.1, ← hrest, List.take_append_drop]
        rw [hbody]
        exact .intro (Aggregate.ofName?_eq_some_iff.mp hname) hargument.2.1 hargument.2.2
      · simp only [if_neg hargument, reduceCtorEq] at h
    · exact absurd h (by simp only [reduceCtorEq, not_false_eq_true])
  · rintro ⟨hname, hne, hopen⟩
    rename_i name
    -- The name has three letters, so it ends where the body is cut.
    have hlength := Aggregate.length_eq_three hname
    rw [splitCall?, List.take_left' hlength, List.drop_left' hlength,
      Aggregate.ofName?_eq_some_iff.mpr hname]
    simp only [List.getLast?_concat, List.dropLast_concat]
    exact if_pos ⟨trivial, hne, hopen⟩

/-- The operation at a place behind a text, read backwards. -/
def operationBehind? (before cs : List Char) (i : Nat) :
    Option (Operator × List Char × List Char) :=
  cs[i]?.bind fun c => operationAt? ((cs.take i).reverse ++ before) c (cs.drop (i + 1))

/-- Moving on by one character puts that character in front and counts the
    places from the next. -/
theorem operationBehind?_succ (before cs : List Char) (c : Char) (i : Nat) :
    operationBehind? before (c :: cs) (i + 1) = operationBehind? (c :: before) cs i := by
  simp only [operationBehind?, List.getElem?_cons_succ, List.take_succ_cons, List.reverse_cons,
    List.append_assoc, List.singleton_append, List.drop_succ_cons]

/-- The search answers with the first place that has a sign and two sides, which
    is what the induction on the rest of the text keeps. -/
theorem splitOperationFrom?_eq_some_iff {found : Operator × List Char × List Char}
    {cs : List Char} : ∀ {before : List Char}, splitOperationFrom? before cs = some found ↔
      ∃ i, operationBehind? before cs i = some found ∧
        ∀ j < i, operationBehind? before cs j = none := by
  induction cs with
  | nil =>
      intro before
      simp only [splitOperationFrom?, operationBehind?, List.getElem?_nil, Option.bind_none,
        reduceCtorEq, false_and, exists_false]
  | cons c cs ih =>
      intro before
      have hzero : operationBehind? before (c :: cs) 0 = operationAt? before c cs := rfl
      rw [splitOperationFrom?]
      cases hat : operationAt? before c cs with
      | some here =>
          -- The place at hand is the first, and no later one counts.
          constructor
          · intro h
            exact ⟨0, by rw [hzero, hat]; exact h, fun j hj => absurd hj (Nat.not_lt_zero j)⟩
          · rintro ⟨i, hi, hfirst⟩
            cases i with
            | zero => rw [← hi, hzero, hat]
            | succ i =>
                have hnone := hfirst 0 (Nat.succ_pos i)
                rw [hzero, hat] at hnone
                exact absurd hnone (by simp only [reduceCtorEq, not_false_eq_true])
      | none =>
          rw [ih]
          constructor
          · rintro ⟨i, hi, hfirst⟩
            refine ⟨i + 1, by rw [operationBehind?_succ]; exact hi, fun j hj => ?_⟩
            cases j with
            | zero => rw [hzero, hat]
            | succ j =>
                rw [operationBehind?_succ]
                exact hfirst j (Nat.lt_of_succ_lt_succ hj)
          · rintro ⟨i, hi, hfirst⟩
            cases i with
            | zero =>
                rw [hzero, hat] at hi
                exact absurd hi (by simp only [reduceCtorEq, not_false_eq_true])
            | succ i =>
                rw [operationBehind?_succ] at hi
                refine ⟨i, hi, fun j hj => ?_⟩
                rw [← operationBehind?_succ]
                exact hfirst (j + 1) (Nat.succ_lt_succ hj)

/-- A side is a text that is not empty and is on one line. -/
theorem isSide_iff {cs : List Char} :
    isSide cs = true ↔ cs ≠ [] ∧ ∀ c ∈ cs, Text.isLineBreak c = false := by
  simp only [isSide, Bool.and_eq_true, Bool.not_eq_true', List.isEmpty_eq_false_iff,
    List.any_eq_false, Bool.not_eq_true, ne_eq]

/-- A place holds an operation exactly when its character is a sign and both
    sides can be sides; they are then trimmed. -/
theorem operationAt?_eq_some_iff {before after left right : List Char} {c : Char} {op : Operator} :
    operationAt? before c after = some (op, left, right) ↔
      (c = op.sign ∧ isSide left = true ∧ isSide right = true) ∧
        Text.trim Text.isBlank before.reverse = left ∧ Text.trim Text.isBlank after = right := by
  rw [operationAt?]
  cases hsign : Operator.ofSign? c with
  | none =>
      refine ⟨fun h => absurd h (by simp only [reduceCtorEq, not_false_eq_true]), fun h => ?_⟩
      rw [Operator.ofSign?_eq_some_iff.mpr h.1.1] at hsign
      exact absurd hsign (by simp only [reduceCtorEq, not_false_eq_true])
  | some op' =>
      have hc := Operator.ofSign?_eq_some_iff.mp hsign
      constructor
      · intro h
        by_cases hsides : (isSide (Text.trim Text.isBlank before.reverse) &&
            isSide (Text.trim Text.isBlank after)) = true
        · simp only [if_pos hsides, Option.some.injEq, Prod.mk.injEq] at h
          rcases h with ⟨rfl, rfl, rfl⟩
          rw [Bool.and_eq_true] at hsides
          exact ⟨⟨hc, hsides⟩, rfl, rfl⟩
        · simp only [if_neg hsides, reduceCtorEq] at h
      · rintro ⟨⟨hop, hleft, hright⟩, rfl, rfl⟩
        rw [Operator.ofSign?_eq_some_iff.mpr hop, Option.some.injEq] at hsign
        simp only [hleft, hright, Bool.and_self, if_true, hsign]

/-- In a body without blanks at its ends a side is empty only at the first or
    the last place. -/
theorem operationBehind?_eq_some_iff {c : Char} {rest left right : List Char} {i : Nat}
    {op : Operator} (h : Text.IsTrimmed Text.isBlank (c :: rest)) :
    operationBehind? [c] rest i = some (op, left, right) ↔
      SignAt (c :: rest) (i + 1) op ∧
        Text.trim Text.isBlank ((c :: rest).take (i + 1)) = left ∧
        Text.trim Text.isBlank ((c :: rest).drop (i + 2)) = right := by
  have hleft := h.trim_take_ne_nil (List.cons_ne_nil c rest) (Nat.succ_pos i)
  have hright := h.trim_drop_eq_nil_iff (i := i + 2)
  have hbefore : ((rest.take i).reverse ++ [c]).reverse = (c :: rest).take (i + 1) := by
    rw [List.reverse_append, List.reverse_reverse, List.take_succ_cons]
    rfl
  have hafter : rest.drop (i + 1) = (c :: rest).drop (i + 2) := rfl
  rw [operationBehind?, Option.bind_eq_some_iff]
  simp only [operationAt?_eq_some_iff, hbefore, hafter]
  constructor
  · rintro ⟨d, hd, ⟨rfl, hl, hr⟩, rfl, rfl⟩
    rw [isSide_iff] at hl hr
    refine ⟨⟨hd, Nat.succ_pos i, ?_, hl.2, hr.2⟩, rfl, rfl⟩
    exact Nat.lt_of_not_le fun hle => hr.1 (hright.mpr hle)
  · rintro ⟨hsign, rfl, rfl⟩
    refine ⟨op.sign, hsign.sign, ⟨rfl, isSide_iff.mpr ⟨hleft, hsign.left⟩,
      isSide_iff.mpr ⟨fun hnil => ?_, hsign.right⟩⟩, rfl, rfl⟩
    exact absurd hsign.lt (Nat.not_lt.mpr (hright.mp hnil))

/-- A trimmed body is split at its first sign. -/
theorem splitOperation?_eq_some_iff {body left right : List Char} {op : Operator}
    (h : Text.IsTrimmed Text.isBlank body) :
    splitOperation? body = some (op, left, right) ↔ ∃ i, IsFirstSign body i op ∧
      Text.trim Text.isBlank (body.take i) = left ∧
      Text.trim Text.isBlank (body.drop (i + 1)) = right := by
  cases body with
  | nil =>
      refine ⟨fun hc => absurd hc (by simp only [splitOperation?, reduceCtorEq, not_false_eq_true]),
        ?_⟩
      rintro ⟨i, hfirst, -⟩
      exact absurd hfirst.1.lt (Nat.not_lt_zero _)
  | cons c rest =>
      have hnone : ∀ j, operationBehind? [c] rest j = none ↔
          ∀ op', ¬ SignAt (c :: rest) (j + 1) op' := by
        intro j
        rw [Option.eq_none_iff_forall_ne_some]
        constructor
        · intro hj op' hsign
          exact hj _ ((operationBehind?_eq_some_iff h).mpr ⟨hsign, rfl, rfl⟩)
        · rintro hj ⟨op', left', right'⟩ hsome
          exact hj op' ((operationBehind?_eq_some_iff h).mp hsome).1
      rw [splitOperation?, splitOperationFrom?_eq_some_iff]
      simp only [operationBehind?_eq_some_iff h, hnone]
      constructor
      · rintro ⟨i, ⟨hsign, hsides⟩, hfirst⟩
        refine ⟨i + 1, ⟨hsign, fun j hj op' hc => ?_⟩, hsides⟩
        -- The first place of all is none for a sign.
        cases j with
        | zero => exact absurd hc.pos (Nat.lt_irrefl 0)
        | succ j => exact hfirst j (Nat.lt_of_succ_lt_succ hj) op' hc
      · rintro ⟨i, ⟨hsign, hfirst⟩, hsides⟩
        cases i with
        | zero => exact absurd hsign.pos (Nat.lt_irrefl 0)
        | succ i => exact ⟨i, ⟨hsign, hsides⟩, fun j hj => hfirst (j + 1) (Nat.succ_lt_succ hj)⟩

theorem splitCall?_eq_none_iff {body : List Char} :
    splitCall? body = none ↔ ∀ f argument, ¬ IsCall body f argument :=
  (Attempt.eq_none_iff_of_eq_some_iff fun _ => splitCall?_eq_some_iff).trans Prod.forall

theorem splitOperation?_eq_none_iff {body : List Char} (h : Text.IsTrimmed Text.isBlank body) :
    splitOperation? body = none ↔ ∀ i op, ¬ SignAt body i op := by
  rw [Option.eq_none_iff_forall_ne_some]
  constructor
  · intro hnone i op hsign
    -- Where there is a sign at all there is a first one.
    classical
    have hex : ∃ i op, SignAt body i op := ⟨i, op, hsign⟩
    rcases Nat.find_spec hex with ⟨op', hop'⟩
    refine hnone _ ((splitOperation?_eq_some_iff h).mpr ⟨Nat.find hex, ⟨hop', ?_⟩, rfl, rfl⟩)
    intro j hj op'' hc
    exact Nat.find_min hex hj ⟨op'', hc⟩
  · rintro hno ⟨op, left, right⟩ hsome
    rcases (splitOperation?_eq_some_iff h).mp hsome with ⟨i, hfirst, -⟩
    exact hno i op hfirst.1

/-- A parenthesis is no part of a name, so the name ends right in front of
    it. -/
theorem takeWhile_isNameChar_append {name : List Char} (hname : ∀ c ∈ name, isNameChar c = true)
    (rest : List Char) : (name ++ '(' :: rest).takeWhile isNameChar = name ∧
      (name ++ '(' :: rest).dropWhile isNameChar = '(' :: rest :=
  Text.takeWhile_and_dropWhile_append_cons hname (by decide)

/-- What looks like a call is a word beginning with a letter with an opening
    bracket behind it. -/
theorem looksLikeCall_iff {body name : List Char} : LooksLikeCall body name ↔
    body.takeWhile isNameChar = name ∧ name.head?.any Char.isAlpha = true ∧
      (body.dropWhile isNameChar).head? = some '(' := by
  constructor
  · rintro ⟨rest, rfl, hname, c, hc, halpha⟩
    rcases takeWhile_isNameChar_append hname rest with ⟨htake, hdrop⟩
    rw [htake, hdrop, Option.mem_def.mp hc]
    exact ⟨rfl, halpha, rfl⟩
  · rintro ⟨hname, halpha, hparen⟩
    rcases List.head?_eq_some_iff.mp hparen with ⟨rest, hrest⟩
    have hcut := (Text.takeWhile_eq_and_dropWhile_eq_iff isNameChar body).mp ⟨hname, hrest⟩
    cases hhead : name.head? with
    | none =>
        rw [hhead] at halpha
        exact absurd halpha Bool.false_ne_true
    | some c =>
        rw [hhead] at halpha
        exact ⟨rest, hcut.1, hcut.2.1, c, hhead, halpha⟩

/-- A rejected body that looks like a call is rejected for the function it
    names. -/
theorem rejection_of_looksLikeCall {body name : List Char} (h : LooksLikeCall body name) :
    rejection body = .unknownFunction (String.ofList (name.map Char.toUpper)) := by
  rcases looksLikeCall_iff.mp h with ⟨hname, halpha, hparen⟩
  have hne : body.isEmpty = false := by
    rw [List.isEmpty_eq_false_iff]
    rintro rfl
    exact absurd hparen (by decide)
  simp only [rejection, hname, halpha, hparen, hne, Bool.false_eq_true, if_false, beq_self_eq_true,
    Bool.and_self, if_true]

/-- A rejected body that does not look like a call is rejected for its text. -/
theorem rejection_of_not_looksLikeCall {body : List Char} (hne : body ≠ [])
    (h : ∀ name, ¬ LooksLikeCall body name) :
    rejection body = .unrecognized (String.ofList body) := by
  have hempty : body.isEmpty = false := List.isEmpty_eq_false_iff.mpr hne
  have hcall : ((body.takeWhile isNameChar).head?.any Char.isAlpha &&
      (body.dropWhile isNameChar).head? == some '(') = false := by
    rw [Bool.eq_false_iff, ne_eq, Bool.and_eq_true, beq_iff_eq]
    exact fun hc => h _ (looksLikeCall_iff.mpr ⟨rfl, hc⟩)
  simp only [rejection, hempty, hcall, Bool.false_eq_true, if_false]

/-- The reader finds a reading of every body. -/
theorem bodyWritten_ofBody {body : List Char} (h : Text.IsTrimmed Text.isBlank body) :
    BodyWritten body (ofBody body) := by
  rw [ofBody]
  -- The forms in their order, each with what rules out those before it.
  cases hcall : splitCall? body with
  | some call =>
      rcases call with ⟨f, argument⟩
      have hcall := splitCall?_eq_some_iff.mp hcall
      simp only [ofCall]
      cases hrange : Corners.ofChars? (Text.trim Text.isBlank argument) with
      | some corners => exact .aggregate hcall (Corners.ofChars?_eq_some_iff.mp hrange)
      | none => exact .malformedRange hcall (Corners.ofChars?_eq_none_iff.mp hrange)
  | none =>
      have hcall := splitCall?_eq_none_iff.mp hcall
      cases hsign : splitOperation? body with
      | some operation =>
          rcases operation with ⟨op, left, right⟩
          rcases (splitOperation?_eq_some_iff h).mp hsign with ⟨i, hfirst, rfl, rfl⟩
          exact .binary hcall hfirst (Operand.written_iff.mp rfl) (Operand.written_iff.mp rfl)
      | none =>
          have hsign := (splitOperation?_eq_none_iff h).mp hsign
          cases hnumber : Number.ofChars? body with
          | some x => exact .number hcall hsign hnumber
          | none =>
              by_cases hname : ∃ name, LooksLikeCall body name
              · rcases hname with ⟨name, hname⟩
                simp only [rejection_of_looksLikeCall hname]
                exact .unknownFunction hcall hsign hnumber hname
              · rw [not_exists] at hname
                by_cases hne : body = []
                · subst hne
                  exact .empty rfl
                · simp only [rejection_of_not_looksLikeCall hne hname]
                  exact .unrecognized hcall hsign hnumber hne hname

/-- What a body can be read as is what the reader finds. -/
theorem BodyWritten.ofBody_eq {body : List Char} {r : Except Error Formula}
    (hwritten : BodyWritten body r) (h : Text.IsTrimmed Text.isBlank body) : ofBody body = r := by
  rw [ofBody]
  cases hwritten with
  | aggregate hcall hrange =>
      simp only [splitCall?_eq_some_iff.mpr hcall, ofCall, Corners.ofChars?_eq_some_iff.mpr hrange]
  | malformedRange hcall hrange =>
      simp only [splitCall?_eq_some_iff.mpr hcall, ofCall, Corners.ofChars?_eq_none_iff.mpr hrange]
  | binary hcall hsign hleft hright =>
      have hsplit := (splitOperation?_eq_some_iff h).mpr ⟨_, hsign, rfl, rfl⟩
      simp only [splitCall?_eq_none_iff.mpr hcall, hsplit, Operand.written_iff.mpr hleft,
        Operand.written_iff.mpr hright]
  | number hcall hsign hnumber =>
      simp only [splitCall?_eq_none_iff.mpr hcall, (splitOperation?_eq_none_iff h).mpr hsign,
        hnumber]
  | empty hempty =>
      subst hempty
      rfl
  | unknownFunction hcall hsign hnumber hname =>
      simp only [splitCall?_eq_none_iff.mpr hcall, (splitOperation?_eq_none_iff h).mpr hsign,
        hnumber, rejection_of_looksLikeCall hname]
  | unrecognized hcall hsign hnumber hne hname =>
      simp only [splitCall?_eq_none_iff.mpr hcall, (splitOperation?_eq_none_iff h).mpr hsign,
        hnumber, rejection_of_not_looksLikeCall hne hname]

/-- Every body has the one reading that the reader finds. -/
theorem ofBody_eq_iff_written {body : List Char} {r : Except Error Formula}
    (h : Text.IsTrimmed Text.isBlank body) : ofBody body = r ↔ BodyWritten body r :=
  ⟨fun hr => hr ▸ bodyWritten_ofBody h, fun hwritten => hwritten.ofBody_eq h⟩

/-- A text that begins with an equals sign is parsed from the trimmed rest. -/
theorem ofText_of_equals {text : String} {rest : List Char}
    (h : Text.trim Text.isBlank text.toList = '=' :: rest) :
    ofText text = ofBody (Text.trim Text.isBlank rest) := by
  simp only [ofText, h]

/-- Trimming the text and trimming the rest of it come to the same. -/
theorem ofText_eq_ofBody {text : String} {front rest : List Char}
    (hfront : ∀ c ∈ front, Text.isBlank c = true) (h : text.toList = front ++ '=' :: rest) :
    ofText text = ofBody (Text.trim Text.isBlank rest) := by
  rcases @Text.exists_trim_cons Text.isBlank rest '=' (by decide) with ⟨rest', hrest, htrim⟩
  rw [← htrim]
  refine ofText_of_equals ?_
  rw [h, Text.trim_append_left hfront, hrest]

/-- The blanks around the equals sign and at the end do not count. -/
theorem ofText_eq_ofBody_of_isTrimmed {text : String} {b₁ b₂ b₃ body : List Char}
    (hb₁ : ∀ c ∈ b₁, Text.isBlank c = true) (hb₂ : ∀ c ∈ b₂, Text.isBlank c = true)
    (hb₃ : ∀ c ∈ b₃, Text.isBlank c = true) (hbody : Text.IsTrimmed Text.isBlank body)
    (h : text.toList = b₁ ++ '=' :: (b₂ ++ (body ++ b₃))) : ofText text = ofBody body := by
  rw [ofText_eq_ofBody hb₁ h, Text.trim_append_left hb₂, Text.trim_append_right hb₃,
    hbody.trim_eq_self]

/-- Any other text is a literal. -/
theorem ofText_of_head?_ne {text : String}
    (h : (Text.trim Text.isBlank text.toList).head? ≠ some '=') :
    ofText text = .ok (.literal text) := by
  rw [ofText]
  split
  · rename_i rest hrest
    exact absurd (by rw [hrest]; rfl) h
  · rfl

/-- Whatever the parser answers, the grammar derives. -/
theorem Written.of_ofText {text : String} {r : Except Error Formula} (h : ofText text = r) :
    Written text r := by
  subst h
  by_cases hhead : (Text.trim Text.isBlank text.toList).head? = some '='
  · rcases List.head?_eq_some_iff.mp hhead with ⟨rest, hrest⟩
    rw [ofText_of_equals hrest]
    exact .body hrest ((ofBody_eq_iff_written Text.isTrimmed_trim).mp rfl)
  · rw [ofText_of_head?_ne hhead]
    exact .literal hhead

/-- A text is read as the grammar says, a formula or the reason why it is none,
    and the grammar says one thing about every text. -/
theorem ofText_eq_iff_written (text : String) (r : Except Error Formula) :
    ofText text = r ↔ Written text r := by
  constructor
  · exact .of_ofText
  · intro h
    cases h with
    | literal hhead => exact ofText_of_head?_ne hhead
    | body hrest hbody =>
        rw [ofText_of_equals hrest]
        exact (ofBody_eq_iff_written Text.isTrimmed_trim).mpr hbody

end Formula

end Worksheet
