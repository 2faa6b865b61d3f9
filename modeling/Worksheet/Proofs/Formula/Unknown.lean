import Worksheet.Proofs.Formula.Operation

/-!
# Functions Reported as Unknown

Which texts are reported as the call of a function that does not exist.

What is reported is the name that the body of a text begins with, in capitals.
It is looked for when everything else has failed, and nothing is asked about it
but that a parenthesis follows. Names of aggregates are no exception. They are
kept from being reported by their argument alone: one that is closed at the end
of the body makes a call, which is read as a range or is a malformed one, and
one that is empty, is never closed or is closed too early makes none. So an
aggregate is reported as a function that does not exist whenever its argument is
not delimited as it should be and there is no sign that splits the body.

## Main definitions

* `Formula.IsBody`: What follows the equals sign of a text.
* `Formula.IsFunctionName`: The names of functions, whether they exist or not.
* `Formula.ClosesCall`: The end of a call, behind its opening parenthesis.

## Theorems

* `isCall_append_iff`: The calls that begin with a name.
* `ofBody_eq_unknownFunction_iff`: The bodies that are reported.
* `ofText_eq_unknownFunction_iff`: The texts that are reported.
* `ofText_of_misplaced_parenthesis`: Aggregates that are reported.
-/

namespace Worksheet

namespace Formula

/-- The text is a formula with this body: blanks aside, an equals sign and then
    the body. -/
def IsBody (text : String) (body : List Char) : Prop :=
  ∃ rest, Text.trim Text.isBlank text.toList = '=' :: rest ∧ Text.trim Text.isBlank rest = body

/-- The text can be the name of a function, a letter to begin with. -/
def IsFunctionName (name : List Char) : Prop :=
  (∀ c ∈ name, isNameChar c = true) ∧ ∃ c ∈ name.head?, c.isAlpha = true

/-- What stands behind an opening parenthesis is an argument and, behind it and
    nowhere else, the closing parenthesis. -/
def ClosesCall (rest : List Char) : Prop :=
  ∃ argument, rest = argument ++ [')'] ∧ argument ≠ [] ∧ ')' ∉ argument

variable {body name rest argument : List Char} {f : Aggregate} {n : String}

theorem isNameChar_of_mem_aggregate (h : name.map Char.toUpper = f.name.toList) :
    ∀ c ∈ name, isNameChar c = true := by
  intro c hc
  rw [isNameChar, Text.isAlphanum_of_isAlpha (Aggregate.isAlpha_of_mem_name h c hc), Bool.true_or,
    Bool.true_or]

/-- A word with an opening bracket behind it is a call exactly when it names an
    aggregate and the next closing bracket, past some argument, ends the
    body. -/
theorem isCall_append_iff (hname : ∀ c ∈ name, isNameChar c = true) :
    IsCall (name ++ '(' :: rest) f argument ↔ name.map Char.toUpper = f.name.toList ∧
      rest = argument ++ [')'] ∧ argument ≠ [] ∧ ')' ∉ argument := by
  constructor
  · intro h
    have hcut := takeWhile_isNameChar_append hname rest
    generalize name ++ '(' :: rest = body at h hcut
    rcases h with ⟨hupper, hne, hopen⟩
    have hcut' := takeWhile_isNameChar_append (isNameChar_of_mem_aggregate hupper) (argument ++ [')'])
    rw [hcut.1, hcut.2, List.cons.injEq] at hcut'
    rcases hcut' with ⟨rfl, -, rfl⟩
    exact ⟨hupper, rfl, hne, hopen⟩
  · rintro ⟨hupper, rfl, hne, hopen⟩
    exact .intro hupper hne hopen

/-- No number begins with a function name and a bracket. -/
theorem ofChars?_eq_none_of_name (hbody : Text.IsTrimmed Text.isBlank (name ++ '(' :: rest))
    (hname : IsFunctionName name) : Number.ofChars? (name ++ '(' :: rest) = none := by
  rcases hname.2 with ⟨c, hc, halpha⟩
  rw [Option.eq_none_iff_forall_ne_some]
  intro x hx
  have hhead := Number.not_isAlpha_of_ofChars? hx c
  rw [hbody.trim_eq_self, List.head?_append, Option.mem_def.mp hc] at hhead
  rw [hhead rfl] at halpha
  exact Bool.false_ne_true halpha

/-- A body is rejected for an unknown function exactly when a word and a bracket
    begin it, it is no call of an aggregate, and no sign splits it. -/
theorem ofBody_eq_unknownFunction_iff (h : Text.IsTrimmed Text.isBlank body) :
    ofBody body = .error (.unknownFunction n) ↔ ∃ name rest, body = name ++ '(' :: rest ∧
      IsFunctionName name ∧ String.ofList (name.map Char.toUpper) = n ∧
      ((∃ f : Aggregate, f.name = n) → ¬ ClosesCall rest) ∧ ∀ i op, ¬ SignAt body i op := by
  rw [ofBody_eq_iff_written h]
  constructor
  · intro hwritten
    cases hwritten with
    | @unknownFunction name hcall hsign hnumber hlooks =>
        rcases hlooks with ⟨rest, rfl, hname⟩
        refine ⟨name, rest, rfl, hname, rfl, ?_, hsign⟩
        rintro ⟨f, hf⟩ ⟨argument, hrest⟩
        refine hcall f argument ((isCall_append_iff hname.1).mpr ⟨?_, hrest⟩)
        rw [hf, String.toList_ofList]
  · rintro ⟨name, rest, rfl, hname, rfl, hclose, hsign⟩
    refine .unknownFunction (fun f argument hcall => ?_) hsign (ofChars?_eq_none_of_name h hname)
      ⟨rest, rfl, hname⟩
    rcases (isCall_append_iff hname.1).mp hcall with ⟨hupper, hrest⟩
    exact hclose ⟨f, by rw [hupper, String.ofList_toList]⟩ ⟨argument, hrest⟩

/-- A text is reported as the call of an unknown function exactly if its body
    begins with the name, in letters of either case, and a parenthesis, no sign
    splits the body and, should there be an aggregate with that name, what
    follows does not close the call around an argument. -/
theorem ofText_eq_unknownFunction_iff (text n : String) :
    ofText text = .error (.unknownFunction n) ↔ ∃ body name rest, IsBody text body ∧
      body = name ++ '(' :: rest ∧ IsFunctionName name ∧
      String.ofList (name.map Char.toUpper) = n ∧
      ((∃ f : Aggregate, f.name = n) → ¬ ClosesCall rest) ∧ ∀ i op, ¬ SignAt body i op := by
  constructor
  · intro htext
    cases Written.of_ofText htext with
    | @body rest _ hrest hwritten =>
        rw [← ofBody_eq_iff_written Text.isTrimmed_trim,
          ofBody_eq_unknownFunction_iff Text.isTrimmed_trim] at hwritten
        rcases hwritten with ⟨name, rest', hbody⟩
        exact ⟨_, name, rest', ⟨rest, hrest, rfl⟩, hbody⟩
  · rintro ⟨_, name, rest', ⟨rest, hrest, rfl⟩, hbody⟩
    rw [ofText_of_equals hrest]
    exact (ofBody_eq_unknownFunction_iff Text.isTrimmed_trim).mpr ⟨name, rest', hbody⟩

/-- Aggregates whose argument is empty, is not closed or is closed too early. -/
theorem ofText_of_misplaced_parenthesis :
    ofText "=SUM()" = .error (.unknownFunction Aggregate.sum.name) ∧
      ofText "=max(A1:A3" = .error (.unknownFunction Aggregate.max.name) ∧
      ofText "=Avg(A1:A3))" = .error (.unknownFunction Aggregate.avg.name) := by
  refine ⟨?_, ?_, ?_⟩ <;> rfl

end Formula

end Worksheet
