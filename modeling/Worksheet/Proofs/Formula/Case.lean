import Worksheet.Formula.Value
import Worksheet.Proofs.Number.Case

/-!
# Formulas in Capitals

That the case of letters does not count in a formula.

A formula holds letters in the names of functions, in columns, in numbers and
in whatever is neither. Each of these is read alike in either case, and the
signs between them are no letters, so that a body falls into the same parts
when it is written in capitals. What is kept of it as it is written, operands
that count as zero and what an error reports, is then kept in capitals, and
does not enter into the value.

A formula with some letters in their other case is the same formula in
capitals, and so it has the same value in every grid.

## Main definitions

* `Operand.capitals`, `Formula.capitals`, `Formula.Error.capitals`: What is
  kept as it is written, in capitals.

## Theorems

* `Reference.split?_capitals`, `Corners.ofChars?_capitals`: References and
  ranges.
* `Formula.splitCall?_capitals`, `Formula.splitOperation?_capitals`: The parts
  of a body.
* `Formula.ofBody_capitals`: What a body is.
* `Grid.value_recase`: The value of a formula does not depend on the case of
  its letters.
-/

namespace Worksheet

open Text

/-- What is kept of an operand as it is written, in capitals. -/
def Operand.capitals : Operand → Operand
  | .reference r => .reference r
  | .number x => .number x
  | .invalid text => .invalid (String.ofList (Text.capitals text.toList))

/-- What is kept of a formula as it is written, in capitals. -/
def Formula.capitals : Formula → Formula
  | .literal text => .literal text
  | .number x => .number x
  | .aggregate f corners => .aggregate f corners
  | .binary op left right => .binary op left.capitals right.capitals

/-- What an error reports, in capitals. -/
def Formula.Error.capitals : Formula.Error → Formula.Error
  | .empty => .empty
  | .unrecognized body => .unrecognized (String.ofList (Text.capitals body.toList))
  | .malformedRange argument => .malformedRange (String.ofList (Text.capitals argument.toList))
  | .unknownFunction name => .unknownFunction (String.ofList (Text.capitals name.toList))

/-- A column has one number, whatever the case of its letters. -/
theorem Column.number?_capitals (cs : List Char) :
    Column.number? (Text.capitals cs) = Column.number? cs := by
  have hvalue : IgnoresCase Column.letterValue := ignoresCase_of_all (by decide)
  simp only [Column.number?, ne_eq, capitals_eq_nil_iff, all_capitals ignoresCase_isAlpha,
    map_capitals hvalue]

namespace Reference

/-- A reference is split off at the same place in either case. -/
theorem split?_capitals (cs : List Char) :
    split? (Text.capitals cs) = (split? cs).map fun found => (found.1, Text.capitals found.2) := by
  simp only [split?, takeWhile_capitals ignoresCase_isAlpha, dropWhile_capitals ignoresCase_isAlpha,
    Number.takeWhile_isDigit_capitals, dropWhile_capitals ignoresCase_isDigit,
    Column.number?_capitals]
  split_ifs
  · rfl
  · rw [Option.map_map]
    rfl

/-- A reference is the same reference in either case. -/
theorem ofChars?_capitals (cs : List Char) : ofChars? (Text.capitals cs) = ofChars? cs := by
  rw [ofChars?, split?_capitals, ofChars?]
  cases split? cs with
  | none => rfl
  | some found =>
      rcases found with ⟨r, rest⟩
      cases rest <;> rfl

end Reference

/-- A pair of corners is the same pair in either case. -/
theorem Corners.ofChars?_capitals (cs : List Char) :
    Corners.ofChars? (Text.capitals cs) = Corners.ofChars? cs := by
  rw [Corners.ofChars?, Reference.split?_capitals, Corners.ofChars?]
  cases Reference.split? cs with
  | none => rfl
  | some found =>
      rcases found with ⟨r, rest⟩
      simp only [Option.map_some, Option.bind_eq_bind, Option.bind_some,
        trimLeft_capitals ignoresCase_isBlank]
      cases trimLeft isBlank rest with
      | nil => rfl
      | cons c rest =>
          by_cases hcolon : c = ':'
          · subst hcolon
            have hcapitals : Text.capitals (':' :: rest) = ':' :: Text.capitals rest := rfl
            simp only [hcapitals, trimLeft_capitals ignoresCase_isBlank,
              Reference.ofChars?_capitals]
          · have hcapital : c.toUpper ≠ ':' := (toUpper_eq_iff (by decide)).not.mpr hcolon
            rw [capitals_cons]
            split
            · rename_i heq
              exact absurd (List.cons.inj heq).1 hcapital
            · split
              · rename_i heq
                exact absurd (List.cons.inj heq).1 hcolon
              · rfl

/-- An aggregate is found under its name in either case. -/
theorem Aggregate.ofName?_capitals (cs : List Char) :
    Aggregate.ofName? (Text.capitals cs) = Aggregate.ofName? cs := by
  have hupper : (Text.capitals cs).map Char.toUpper = cs.map Char.toUpper := capitals_capitals cs
  rw [Aggregate.ofName?, hupper, Aggregate.ofName?]

/-- No sign of an operator is a letter. -/
theorem Operator.ignoresCase_ofSign? : IgnoresCase Operator.ofSign? :=
  ignoresCase_of_all (by decide)

/-- An operand in capitals is the operand up to the text of an invalid one,
    which an operand keeps as written. -/
theorem Operand.ofChars_capitals (cs : List Char) :
    Operand.ofChars (Text.capitals cs) = (Operand.ofChars cs).capitals := by
  rw [Operand.ofChars, Reference.ofChars?_capitals, Number.ofChars?_capitals, Operand.ofChars]
  cases Reference.ofChars? cs with
  | some r => rfl
  | none =>
      cases Number.ofChars? cs with
      | some x => rfl
      | none => simp only [capitals, String.toList_ofList]

namespace Formula

/-- The case of the letters decides neither whether a body is a call nor what it
    calls. -/
theorem splitCall?_capitals (body : List Char) :
    splitCall? (Text.capitals body) =
      (splitCall? body).map fun call => (call.1, Text.capitals call.2) := by
  have htake : (Text.capitals body).take 3 = Text.capitals (body.take 3) := List.map_take.symm
  have hdrop : (Text.capitals body).drop 3 = Text.capitals (body.drop 3) := List.map_drop.symm
  by_cases hparen : (body.drop 3).head? = some '('
  · rcases List.head?_eq_some_iff.mp hparen with ⟨rest, hrest⟩
    have hcapitals : Text.capitals ('(' :: rest) = '(' :: Text.capitals rest := rfl
    have hinner : (Text.capitals rest).dropLast = Text.capitals rest.dropLast :=
      List.map_dropLast.symm
    have hclosing : Char.isAlpha ')' = false := by decide
    rw [splitCall?, htake, hdrop, hrest, hcapitals, Aggregate.ofName?_capitals, splitCall?, hrest]
    cases Aggregate.ofName? (body.take 3) with
    | none => rfl
    | some f =>
        simp only [hinner, getLast?_capitals_eq_some_iff hclosing, mem_capitals_iff hclosing,
          ne_eq, capitals_eq_nil_iff]
        split_ifs <;> rfl
  · -- Where no bracket stands behind three characters, neither text is a call.
    have hnone : ∀ cs : List Char, (cs.drop 3).head? ≠ some '(' → splitCall? cs = none := by
      intro cs hcs
      unfold splitCall?
      split
      · rename_i hrest
        exact absurd (by rw [hrest]; rfl) hcs
      · rfl
    rw [hnone body hparen, hnone (Text.capitals body)]
    · rfl
    · rw [hdrop]
      exact (head?_capitals_eq_some_iff (by decide)).not.mpr hparen

theorem isSide_capitals (cs : List Char) : isSide (Text.capitals cs) = isSide cs := by
  rw [isSide, isEmpty_capitals, any_capitals ignoresCase_isLineBreak, isSide]

/-- The two sides of an operation in capitals. -/
def capitalSides (found : Operator × List Char × List Char) : Operator × List Char × List Char :=
  (found.1, Text.capitals found.2.1, Text.capitals found.2.2)

/-- Whether a sign with two sides stands at a place does not depend on the case
    of the letters. -/
theorem operationAt?_capitals (before : List Char) (c : Char) (after : List Char) :
    operationAt? (Text.capitals before) c.toUpper (Text.capitals after) =
      (operationAt? before c after).map capitalSides := by
  rw [operationAt?, Operator.ignoresCase_ofSign?, operationAt?]
  cases Operator.ofSign? c with
  | none => rfl
  | some op =>
      simp only [← capitals_reverse, trim_capitals ignoresCase_isBlank, isSide_capitals]
      split_ifs <;> rfl

/-- The search for the first sign goes on in step with the one over the
    capitals. -/
theorem splitOperationFrom?_capitals (cs : List Char) : ∀ before : List Char,
    splitOperationFrom? (Text.capitals before) (Text.capitals cs) =
      (splitOperationFrom? before cs).map capitalSides := by
  induction cs with
  | nil => exact fun before => rfl
  | cons c after ih =>
      intro before
      rw [capitals_cons, splitOperationFrom?, operationAt?_capitals, splitOperationFrom?]
      cases operationAt? before c after with
      | some found => rfl
      | none => exact ih (c :: before)

theorem splitOperation?_capitals (body : List Char) :
    splitOperation? (Text.capitals body) = (splitOperation? body).map capitalSides := by
  cases body with
  | nil => rfl
  | cons c rest => exact splitOperationFrom?_capitals rest [c]

/-- A rejected body is rejected for the same reason, and an unknown function is
    named in capitals anyway. -/
theorem rejection_capitals (body : List Char) :
    rejection (Text.capitals body) = (rejection body).capitals := by
  have hname : IgnoresCase isNameChar := ignoresCase_of_all (by decide)
  have hlead : ∀ cs : List Char,
      (Text.capitals cs).head?.any Char.isAlpha = cs.head?.any Char.isAlpha := by
    intro cs
    cases cs with
    | nil => rfl
    | cons c cs => exact ignoresCase_isAlpha c
  have hparen : ∀ cs : List Char,
      ((Text.capitals cs).head? == some '(') = (cs.head? == some '(') := by
    intro cs
    rw [Bool.eq_iff_iff, beq_iff_eq, beq_iff_eq]
    exact head?_capitals_eq_some_iff (by decide)
  simp only [rejection, takeWhile_capitals hname, dropWhile_capitals hname, hlead, hparen,
    isEmpty_capitals]
  split_ifs
  · rfl
  · simp only [Error.capitals, String.toList_ofList]
    rfl
  · simp only [Error.capitals, String.toList_ofList]

/-- A call accepts or rejects its argument in either case. -/
theorem ofCall_capitals (f : Aggregate) (argument : List Char) :
    ofCall f (Text.capitals argument) =
      ((ofCall f argument).map capitals).mapError Error.capitals := by
  simp only [ofCall, trim_capitals ignoresCase_isBlank, Corners.ofChars?_capitals]
  cases Corners.ofChars? (trim isBlank argument) with
  | some corners => rfl
  | none => simp only [Except.map, Except.mapError, Error.capitals, String.toList_ofList]

/-- What a body is in capitals. -/
theorem ofBody_capitals (body : List Char) :
    ofBody (Text.capitals body) = ((ofBody body).map capitals).mapError Error.capitals := by
  rw [ofBody, splitCall?_capitals, splitOperation?_capitals, Number.ofChars?_capitals, ofBody]
  cases splitCall? body with
  | some call => exact ofCall_capitals call.1 call.2
  | none =>
      cases splitOperation? body with
      | some found =>
          simp only [Option.map_none, Option.map_some, capitalSides, Operand.ofChars_capitals]
          rfl
      | none =>
          cases Number.ofChars? body with
          | some x => rfl
          | none =>
              simp only [Option.map_none, rejection_capitals]
              rfl

/-- What a text that starts like a formula is in capitals. -/
theorem ofText_capitals {text : String}
    (h : (trim isBlank text.toList).head? = some '=') :
    ofText (String.ofList (Text.capitals text.toList)) =
      ((ofText text).map capitals).mapError Error.capitals := by
  rcases List.head?_eq_some_iff.mp h with ⟨rest, hrest⟩
  have hcapitals : Text.capitals ('=' :: rest) = '=' :: Text.capitals rest := rfl
  simp only [ofText, String.toList_ofList, trim_capitals ignoresCase_isBlank, hrest, hcapitals,
    ofBody_capitals]

end Formula

namespace Grid

/-- An operand is worth the same in either case: an invalid one is worth
    zero. -/
theorem number_capitals (g : Grid) (o : Operand) : g.number o.capitals = g.number o := by
  cases o <;> rfl

/-- The value of a formula does not depend on the texts its invalid operands
    keep. -/
theorem valueOf_capitals (g : Grid) (f : Formula) : g.valueOf f.capitals = g.valueOf f := by
  cases f with
  | literal text => rfl
  | number x => rfl
  | aggregate f corners => rfl
  | binary op left right => simp only [Formula.capitals, valueOf, number_capitals]

/-- A formula is worth the same in capitals. -/
theorem value_capitals (g : Grid) {text : String}
    (h : (trim isBlank text.toList).head? = some '=') :
    g.value (String.ofList (Text.capitals text.toList)) = g.value text := by
  rw [value, Formula.ofText_capitals h, value]
  cases Formula.ofText text with
  | ok formula => exact g.valueOf_capitals formula
  | error e => rfl

/-- A formula is worth the same with some of its letters in their other case. -/
theorem value_recase (g : Grid) (flipped : Nat → Bool) {text : String}
    (h : (trim isBlank text.toList).head? = some '=') :
    g.value (String.ofList (recase flipped text.toList)) = g.value text := by
  have hcapitals := capitals_recase flipped text.toList
  have hrecased : (trim isBlank (String.ofList (recase flipped text.toList)).toList).head? =
      some '=' := by
    rw [← head?_capitals_eq_some_iff (by decide), ← trim_capitals ignoresCase_isBlank] at h ⊢
    rw [String.toList_ofList, hcapitals]
    exact h
  have hvalue := g.value_capitals hrecased
  rw [String.toList_ofList, hcapitals] at hvalue
  rw [← hvalue, g.value_capitals h]

/-- The name of a function and two columns in their other case. -/
theorem value_recase_call :
    let g : Grid := ⟨fun a => if a = ⟨0, 1⟩ then "0xfF" else "", none⟩
    (trim isBlank " =Min( b1 : A9 )".toList).head? = some '=' ∧
      String.ofList (recase (fun _ => true) " =Min( b1 : A9 )".toList) = " =mIN( B1 : a9 )" ∧
      g.value " =mIN( B1 : a9 )" = g.value " =Min( b1 : A9 )" := by
  intro g
  have hformula : (trim isBlank " =Min( b1 : A9 )".toList).head? = some '=' := by decide
  have hrecased : String.ofList (recase (fun _ => true) " =Min( b1 : A9 )".toList) =
      " =mIN( B1 : a9 )" := by decide
  refine ⟨hformula, hrecased, ?_⟩
  rw [← hrecased]
  exact g.value_recase _ hformula

end Grid

end Worksheet
