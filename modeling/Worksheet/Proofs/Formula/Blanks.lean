import Mathlib.Logic.Relation
import Mathlib.Tactic.IntervalCases
import Worksheet.Proofs.Formula.Call
import Worksheet.Proofs.Formula.Operation

/-!
# Blanks in Formulas

Where blanks can be put into a formula so that it is still read as the same
one.

Blanks do not count around the equals sign and at the end of the text, on both
sides of the sign that splits the body, just inside the parentheses of a call
and on both sides of the colon in them. They cannot be taken away everywhere:
a line break keeps the signs in front of it from splitting the body, as long
as there is something on both sides of it, and without it one of them could
come first. Putting blanks in can only keep more signs from splitting, and it
does not touch the one that splits the body, since what is next to a sign is
trimmed.

A text may be given blanks at several places, one after the other. Each step
leaves a formula of the same reading, so any number of steps does.

## Main definitions

* `Text.NextTo`: A place with nothing but blanks between it and a character.
* `Formula.ArgumentGap`, `Formula.BodyGap`, `Formula.Gap`: The places in an
  argument, a body and a text where blanks do not count.
* `Formula.Spaced`: A text with a run of blanks put in at such a place.

## Theorems

* `Corners.written_trim_iff`: The arguments that are ranges.
* `Formula.SignAt.of_insert`: Blanks do not make a sign split a body.
* `Formula.ofText_of_spaced_step`: One run of blanks changes no reading.
* `Formula.ofText_of_spaced`: Nor does any number of them.
-/

namespace Worksheet

/-- The place between the last two texts is next to a character that stands
    between the first two: there are only blanks between the place and it. -/
inductive Text.NextTo (left : List Char) (mark : Char) (right : List Char) :
    List Char → List Char → Prop where
  /-- The place is in front of the character. -/
  | before {front blanks : List Char} (hleft : left = front ++ blanks)
      (hblanks : ∀ c ∈ blanks, Text.isBlank c = true) :
      NextTo left mark right front (blanks ++ mark :: right)
  /-- The place is behind the character. -/
  | behind {blanks back : List Char} (hright : right = blanks ++ back)
      (hblanks : ∀ c ∈ blanks, Text.isBlank c = true) :
      NextTo left mark right (left ++ mark :: blanks) back

namespace Text.NextTo

variable {left right front back space : List Char} {mark : Char}

/-- The two sides with the sign between them are the text the blanks are put
    into. -/
theorem append_eq (h : NextTo left mark right front back) :
    front ++ back = left ++ mark :: right := by
  cases h with
  | before hleft => rw [hleft, List.append_assoc]
  | behind hright => rw [hright, List.append_assoc, List.cons_append]

/-- The texts on either side of the character change at their inner ends
    only. -/
theorem exists_insert (h : NextTo left mark right front back)
    (hspace : ∀ c ∈ space, Text.isBlank c = true) : ∃ left' right',
      front ++ (space ++ back) = left' ++ mark :: right' ∧
      Text.trim Text.isBlank left' = Text.trim Text.isBlank left ∧
      Text.trim Text.isBlank right' = Text.trim Text.isBlank right := by
  cases h with
  | @before _ blanks hleft hblanks =>
      refine ⟨front ++ (space ++ blanks), right, ?_, ?_, rfl⟩
      · simp only [List.append_assoc]
      · rw [hleft, Text.trim_append_right (List.forall_mem_append.mpr ⟨hspace, hblanks⟩),
          Text.trim_append_right hblanks]
  | @behind blanks _ hright hblanks =>
      refine ⟨left, blanks ++ (space ++ back), ?_, rfl, ?_⟩
      · simp only [List.append_assoc, List.cons_append]
      · rw [hright, Text.trim_append_left hblanks, Text.trim_append_left hspace,
          Text.trim_append_left hblanks]

/-- In a trimmed body both sides of a sign are more than blanks. -/
theorem ne_nil (h : NextTo left mark right front back)
    (htrim : Text.IsTrimmed Text.isBlank (left ++ mark :: right)) (hleft : left ≠ [])
    (hright : right ≠ []) : front ≠ [] ∧ back ≠ [] := by
  cases h with
  | before heq hblanks =>
      refine ⟨?_, List.append_ne_nil_of_right_ne_nil _ (List.cons_ne_nil _ _)⟩
      rintro rfl
      rw [List.nil_append] at heq
      exact hleft (htrim.eq_nil_left (heq ▸ hblanks))
  | behind heq hblanks =>
      refine ⟨List.append_ne_nil_of_right_ne_nil _ (List.cons_ne_nil _ _), ?_⟩
      rintro rfl
      rw [List.append_nil] at heq
      rw [List.append_cons] at htrim
      exact hright (htrim.eq_nil_right (heq ▸ hblanks))

end Text.NextTo

/-- A reference with blanks around it holds no colon. -/
theorem Reference.colon_not_mem_of_trim {cs : List Char} {r : Reference}
    (h : Written (Text.trim Text.isBlank cs) r) : ':' ∉ cs := by
  rcases (Text.trim_eq_iff.mp (Eq.refl (Text.trim Text.isBlank cs))).2 with
    ⟨front, back, hcs, hfront, hback⟩
  have hblank : Text.isBlank ':' ≠ true := by decide
  have halphanum : Char.isAlphanum ':' ≠ true := by decide
  rw [hcs, List.mem_append, List.mem_append, not_or, not_or]
  exact ⟨fun hmem => hblank (hfront _ hmem), fun hmem => halphanum (h.isAlphanum _ hmem),
    fun hmem => hblank (hback _ hmem)⟩

/-- An argument is a range exactly if it is two references, each with blanks
    around it, and a colon between them. -/
theorem Corners.written_trim_iff {cs : List Char} {corners : Corners} :
    Written (Text.trim Text.isBlank cs) corners ↔ ∃ left right, cs = left ++ ':' :: right ∧
      Reference.Written (Text.trim Text.isBlank left) corners.first ∧
      Reference.Written (Text.trim Text.isBlank right) corners.second := by
  constructor
  · intro h
    rcases (Text.trim_eq_iff.mp (Eq.refl (Text.trim Text.isBlank cs))).2 with
      ⟨front, back, hcs, hfront, hback⟩
    generalize Text.trim Text.isBlank cs = range at h hcs
    rcases h with ⟨hfirst, hbefore, hafter, hsecond⟩
    rename_i x before after y first second
    -- The blanks cut off at the two ends go to the outer sides of the references.
    refine ⟨front ++ (x ++ before), after ++ (y ++ back), ?_, ?_, ?_⟩
    · rw [hcs]
      simp only [List.append_assoc, List.cons_append]
    · rwa [Text.trim_append_left hfront, Text.trim_append_right hbefore,
        hfirst.isTrimmed.trim_eq_self]
    · rwa [Text.trim_append_left hafter, Text.trim_append_right hback,
        hsecond.isTrimmed.trim_eq_self]
  · rintro ⟨left, right, rfl, hfirst, hsecond⟩
    rcases (Text.trim_eq_iff.mp (Eq.refl (Text.trim Text.isBlank left))).2 with
      ⟨front, before, hleft, hfront, hbefore⟩
    rcases (Text.trim_eq_iff.mp (Eq.refl (Text.trim Text.isBlank right))).2 with
      ⟨after, back, hright, hafter, hback⟩
    -- The blanks at the colon stay where they are, those at the ends are cut off.
    have hwritten : Written (Text.trim Text.isBlank left ++ (before ++ ':' ::
        (after ++ Text.trim Text.isBlank right))) corners :=
      .intro hfirst hbefore hafter hsecond
    have htrim : Text.trim Text.isBlank (left ++ ':' :: right) = Text.trim Text.isBlank left ++
        (before ++ ':' :: (after ++ Text.trim Text.isBlank right)) := by
      refine Text.trim_eq_iff.mpr ⟨hwritten.isTrimmed, front, back, ?_, hfront, hback⟩
      calc left ++ ':' :: right
          = front ++ (Text.trim Text.isBlank left ++ before) ++
              ':' :: (after ++ (Text.trim Text.isBlank right ++ back)) := by
            rw [← hleft, ← hright]
        _ = _ := by simp only [List.append_assoc, List.cons_append]
    rwa [htrim]

namespace Formula

/-- A place in the argument of a call where blanks do not count: just inside a
    parenthesis or next to the colon. -/
inductive ArgumentGap : List Char → List Char → Prop where
  /-- Behind the opening parenthesis. -/
  | opening {front back : List Char} (hfront : ∀ c ∈ front, Text.isBlank c = true) :
      ArgumentGap front back
  /-- In front of the closing parenthesis. -/
  | closing {front back : List Char} (hback : ∀ c ∈ back, Text.isBlank c = true) :
      ArgumentGap front back
  /-- Next to the colon. -/
  | colon {left right front back : List Char} (h : Text.NextTo left ':' right front back) :
      ArgumentGap front back

/-- A place in a body where blanks do not count: next to the sign that splits it
    or in the argument of the call that it is. -/
inductive BodyGap : List Char → List Char → Prop where
  /-- Next to the sign of an operation. -/
  | sign {left right front back : List Char} {op : Operator}
      (htrim : Text.IsTrimmed Text.isBlank (left ++ op.sign :: right))
      (hcall : ∀ f argument, ¬ IsCall (left ++ op.sign :: right) f argument)
      (hsign : IsFirstSign (left ++ op.sign :: right) left.length op)
      (h : Text.NextTo left op.sign right front back) : BodyGap front back
  /-- In the argument of a call. -/
  | argument {f : Aggregate} {name front back : List Char}
      (hname : name.map Char.toUpper = f.name.toList) (hne : front ++ back ≠ [])
      (hopen : ')' ∉ front ++ back) (h : ArgumentGap front back) :
      BodyGap (name ++ '(' :: front) (back ++ [')'])

/-- A place in the text of a formula where blanks do not count. -/
inductive Gap : List Char → List Char → Prop where
  /-- Next to the equals sign. -/
  | equals {left right front back : List Char} (hleft : ∀ c ∈ left, Text.isBlank c = true)
      (h : Text.NextTo left '=' right front back) : Gap front back
  /-- At the end of the text. -/
  | finish {front back : List Char} (hback : ∀ c ∈ back, Text.isBlank c = true) : Gap front back
  /-- In the body. -/
  | body {b₁ b₂ b₃ front back : List Char} (hb₁ : ∀ c ∈ b₁, Text.isBlank c = true)
      (hb₂ : ∀ c ∈ b₂, Text.isBlank c = true) (hb₃ : ∀ c ∈ b₃, Text.isBlank c = true)
      (h : BodyGap front back) : Gap (b₁ ++ '=' :: (b₂ ++ front)) (back ++ b₃)

/-- The second text is the first one with a run of blanks put in where blanks do
    not count. -/
inductive Spaced (text text' : String) : Prop where
  | intro {front space back : List Char} (htext : text.toList = front ++ back)
      (htext' : text'.toList = front ++ (space ++ back)) (hgap : Gap front back)
      (hspace : ∀ c ∈ space, Text.isBlank c = true) : Spaced text text'

variable {front space back : List Char}

/-- Blanks put in behind a sign do not make it split a body. -/
theorem SignAt.of_insert {j : Nat} {op : Operator} (h : SignAt (front ++ (space ++ back)) j op)
    (hspace : ∀ c ∈ space, Text.isBlank c = true) (hback : back ≠ []) (hj : j < front.length) :
    SignAt (front ++ back) j op := by
  have hdrop : ∀ cs : List Char, (front ++ cs).drop (j + 1) = front.drop (j + 1) ++ cs :=
    fun cs => List.drop_append_of_le_length hj
  refine ⟨?_, h.pos, ?_, ?_, fun c hc => h.right c ?_⟩
  · rw [← h.sign, List.getElem?_append_left hj, List.getElem?_append_left hj]
  · have hpos := List.length_pos_iff.mpr hback
    rw [List.length_append]
    omega
  · have hleft := h.left
    rw [List.take_append_of_le_length (Nat.le_of_lt hj)] at hleft ⊢
    exact hleft
  · rw [hdrop] at hc ⊢
    exact Text.mem_trim_insert hspace hc

/-- There are no blanks in front of the argument of a call nor behind it. -/
theorem IsCall.exists_of_insert {f : Aggregate} {argument : List Char}
    (h : IsCall (front ++ (space ++ back)) f argument)
    (hspace : ∀ c ∈ space, Text.isBlank c = true) (hne : space ≠ []) (hback : back ≠ []) :
    ∃ name left right, name.map Char.toUpper = f.name.toList ∧ ')' ∉ left ++ right ∧
      front = name ++ '(' :: left ∧ back = right ++ [')'] := by
  generalize hbody : front ++ (space ++ back) = body at h
  rcases h with ⟨hname, -, hopen⟩
  rename_i name
  have hlast : back.getLast? = some ')' := by
    have hlast := congrArg List.getLast? hbody
    rwa [List.getLast?_append_of_ne_nil _ (List.append_ne_nil_of_right_ne_nil _ hback),
      List.getLast?_append_of_ne_nil _ hback, ← List.cons_append, ← List.append_assoc,
      List.getLast?_concat] at hlast
  rw [← List.dropLast_append_getLast? _ hlast] at hbody ⊢
  generalize back.dropLast = right at hbody
  have hinner : front ++ (space ++ right) = (name ++ ['(']) ++ argument := by
    refine (List.append_left_inj [')']).mp ?_
    simpa only [List.append_assoc, List.cons_append, List.nil_append] using hbody
  -- Nothing in front of the argument is blank, so the blanks went into the argument.
  have hopening : ∀ c ∈ name ++ ['('], Text.isBlank c = false := by
    rw [List.forall_mem_append, List.forall_mem_singleton]
    exact ⟨Aggregate.isBlank_eq_false_of_mem_name hname, by decide⟩
  rcases Text.exists_of_append_eq hinner hspace hne hopening with ⟨left, rfl, rfl⟩
  refine ⟨name, left, right, hname, fun hmem => hopen ?_, ?_, rfl⟩
  · rcases List.mem_append.mp hmem with hmem | hmem
    · exact List.mem_append_left _ hmem
    · exact List.mem_append_right _ (List.mem_append_right _ hmem)
  · rw [List.append_assoc, List.singleton_append]

theorem call_append (name front back : List Char) :
    name ++ '(' :: front ++ (back ++ [')']) = name ++ '(' :: (front ++ back ++ [')']) := by
  simp only [List.append_assoc, List.cons_append]

/-- The sign that splits a body is in the argument of any call that the body
    could turn into, and it is still there without the blanks. -/
theorem not_isCall_of_insert {i : Nat} {op : Operator}
    (hcall : ∀ f argument, ¬ IsCall (front ++ back) f argument)
    (hsign : SignAt (front ++ back) i op) (hspace : ∀ c ∈ space, Text.isBlank c = true)
    (hback : back ≠ []) :
    ∀ f argument, ¬ IsCall (front ++ (space ++ back)) f argument := by
  intro f argument h
  by_cases hne : space = []
  · rw [hne, List.nil_append] at h
    exact hcall f argument h
  · rcases h.exists_of_insert hspace hne hback with ⟨name, left, right, hname, hopen, rfl, rfl⟩
    rw [call_append] at hsign hcall
    refine hcall f (left ++ right) (.intro hname (fun hnil => ?_) hopen)
    have hmem := List.mem_of_getElem? hsign.sign
    rw [hnil, List.nil_append, List.mem_append] at hmem
    rcases hmem with hmem | hmem
    · have halpha := Aggregate.isAlpha_of_mem_name hname _ hmem
      cases op <;> exact absurd halpha (by decide)
    · cases op <;> exact absurd hmem (by decide)

variable {left right : List Char} {op : Operator}

/-- In front of the sign: a sign before the blanks does not split the body any
    more than without them, and the blanks are no signs. -/
theorem isFirstSign_before {blanks : List Char} (hspace : ∀ c ∈ space, Text.isBlank c = true)
    (hblanks : ∀ c ∈ blanks, Text.isBlank c = true)
    (hsign : IsFirstSign (front ++ blanks ++ op.sign :: right) (front ++ blanks).length op) :
    IsFirstSign (front ++ (space ++ blanks) ++ op.sign :: right)
      (front ++ (space ++ blanks)).length op := by
  have hinner := List.forall_mem_append.mpr ⟨hspace, hblanks⟩
  constructor
  · have hsides := signAt_length_iff.mp hsign.1
    refine signAt_length_iff.mpr ⟨⟨fun hnil => hsides.1.1 ?_, hsides.1.2⟩, ?_, hsides.2.2⟩
    · simp only [List.append_eq_nil_iff] at hnil ⊢
      exact ⟨hnil.1, hnil.2.2⟩
    · rw [Text.trim_append_right hinner, ← Text.trim_append_right hblanks]
      exact hsides.2.1
  · intro j hj op' hearlier
    by_cases hfront : j < front.length
    · have hlt : j < (front ++ blanks).length := by
        rw [List.length_append]
        omega
      simp only [List.append_assoc] at hearlier hsign
      exact hsign.2 j hlt op' (hearlier.of_insert hspace
        (List.append_ne_nil_of_right_ne_nil _ (List.cons_ne_nil _ _)) hfront)
    · -- Between the front and the sign there are blanks only, and no sign is one.
      have hat := hearlier.sign
      rw [List.getElem?_append_left hj, List.getElem?_append_right (Nat.not_lt.mp hfront)] at hat
      have hblank := hinner _ (List.mem_of_getElem? hat)
      cases op' <;> exact absurd hblank (by decide)

/-- Behind the sign: there all signs that could come first are before the
    blanks. -/
theorem isFirstSign_behind {blanks : List Char} (hspace : ∀ c ∈ space, Text.isBlank c = true)
    (hblanks : ∀ c ∈ blanks, Text.isBlank c = true) (hback : back ≠ [])
    (hsign : IsFirstSign (left ++ op.sign :: (blanks ++ back)) left.length op) :
    IsFirstSign (left ++ op.sign :: (blanks ++ (space ++ back))) left.length op := by
  constructor
  · have hsides := signAt_length_iff.mp hsign.1
    have hne : blanks ++ (space ++ back) ≠ [] :=
      List.append_ne_nil_of_right_ne_nil _ (List.append_ne_nil_of_right_ne_nil _ hback)
    refine signAt_length_iff.mpr ⟨⟨hsides.1.1, hne⟩, hsides.2.1, ?_⟩
    rw [Text.trim_append_left hblanks, Text.trim_append_left hspace,
      ← Text.trim_append_left hblanks]
    exact hsides.2.2
  · intro j hj op' hearlier
    have hlt : j < (left ++ op.sign :: blanks).length := by
      rw [List.length_append]
      omega
    rw [← List.cons_append, ← List.append_assoc] at hearlier hsign
    exact hsign.2 j hj op' (hearlier.of_insert hspace hback hlt)

/-- Blanks next to the sign that splits a body do not change the reading of the
    body. -/
theorem ofBody_insert_of_sign (htrim : Text.IsTrimmed Text.isBlank (left ++ op.sign :: right))
    (hcall : ∀ f argument, ¬ IsCall (left ++ op.sign :: right) f argument)
    (hsign : IsFirstSign (left ++ op.sign :: right) left.length op)
    (h : Text.NextTo left op.sign right front back) (hspace : ∀ c ∈ space, Text.isBlank c = true) :
    Text.IsTrimmed Text.isBlank (front ++ (space ++ back)) ∧
      ofBody (front ++ (space ++ back)) = ofBody (front ++ back) := by
  have hsides := (signAt_length_iff.mp hsign.1).1
  have hne := h.ne_nil htrim hsides.1 hsides.2
  have htrim' : Text.IsTrimmed Text.isBlank (front ++ (space ++ back)) :=
    (h.append_eq ▸ htrim).insert hne.1 hne.2
  have hcall' : ∀ f argument, ¬ IsCall (front ++ (space ++ back)) f argument :=
    not_isCall_of_insert (h.append_eq ▸ hcall) (h.append_eq ▸ hsign.1) hspace hne.2
  refine ⟨htrim', ?_⟩
  rw [h.append_eq, ofBody_of_isFirstSign htrim hcall hsign]
  -- The sign is still the first one, and trimming drops the blanks from its side.
  cases h with
  | @before _ blanks hleft hblanks =>
      subst hleft
      have hbody : front ++ (space ++ (blanks ++ op.sign :: right)) =
          front ++ (space ++ blanks) ++ op.sign :: right := by
        simp only [List.append_assoc]
      rw [hbody] at htrim' hcall' ⊢
      rw [ofBody_of_isFirstSign htrim' hcall' (isFirstSign_before hspace hblanks hsign),
        Text.trim_append_right hblanks,
        Text.trim_append_right (List.forall_mem_append.mpr ⟨hspace, hblanks⟩)]
  | @behind blanks _ hright hblanks =>
      subst hright
      have hbody : left ++ op.sign :: blanks ++ (space ++ back) =
          left ++ op.sign :: (blanks ++ (space ++ back)) := by
        simp only [List.append_assoc, List.cons_append]
      rw [hbody] at htrim' hcall' ⊢
      rw [ofBody_of_isFirstSign htrim' hcall' (isFirstSign_behind hspace hblanks hne.2 hsign),
        Text.trim_append_left hblanks, Text.trim_append_left hblanks, Text.trim_append_left hspace]

/-- Blanks in the argument of a call leave it a range between the same
    corners. -/
theorem ArgumentGap.written_insert {corners : Corners} (hgap : ArgumentGap front back)
    (hspace : ∀ c ∈ space, Text.isBlank c = true)
    (h : Corners.Written (Text.trim Text.isBlank (front ++ back)) corners) :
    Corners.Written (Text.trim Text.isBlank (front ++ (space ++ back))) corners := by
  cases hgap with
  | opening hfront =>
      rw [Text.trim_append_left hfront] at h ⊢
      rwa [Text.trim_append_left hspace]
  | closing hback =>
      rw [Text.trim_append_right hback] at h
      rwa [Text.trim_append_right (List.forall_mem_append.mpr ⟨hspace, hback⟩)]
  | @colon left right _ _ hnext =>
      rcases Corners.written_trim_iff.mp h with ⟨left', right', heq, hfirst, hsecond⟩
      rcases hnext.exists_insert hspace with ⟨x, y, hinsert, hx, hy⟩
      -- There is one colon only, so the place is next to the one between the references.
      rw [hnext.append_eq, eq_comm, List.append_cons_inj_of_notMem
        (Reference.colon_not_mem_of_trim hfirst) (Reference.colon_not_mem_of_trim hsecond)] at heq
      rcases heq with ⟨rfl, -, rfl⟩
      exact Corners.written_trim_iff.mpr ⟨x, y, hinsert, hx ▸ hfirst, hy ▸ hsecond⟩

/-- A body that is a call is settled by its argument: neither a number nor a
    reference ends in a bracket. -/
theorem ofBody_of_isCall {body argument : List Char} {f : Aggregate} (h : IsCall body f argument) :
    ofBody body = ofCall f argument := by
  simp only [ofBody, splitCall?_eq_some_iff.mpr h]

/-- The argument of a call is accepted exactly when its trimmed text is a corner
    or a pair of corners. -/
theorem ofCall_eq_ok_iff {f : Aggregate} {argument : List Char} {formula : Formula} :
    ofCall f argument = .ok formula ↔ ∃ corners,
      Corners.Written (Text.trim Text.isBlank argument) corners ∧
        .aggregate f corners = formula := by
  simp only [ofCall, ← Corners.ofChars?_eq_some_iff]
  cases Corners.ofChars? (Text.trim Text.isBlank argument) with
  | none => simp only [reduceCtorEq, false_and, exists_false]
  | some corners => simp only [Except.ok.injEq, Option.some.injEq, exists_eq_left']

/-- A gap inside a body leaves both ends of the body as they are. -/
theorem BodyGap.isTrimmed (hgap : BodyGap front back) :
    Text.IsTrimmed Text.isBlank (front ++ back) := by
  cases hgap with
  | sign htrim _ _ h => exact h.append_eq ▸ htrim
  | argument hname hne hopen =>
      rw [call_append]
      exact (IsCall.intro hname hne hopen).isTrimmed

/-- Blanks put into a body where they do not count leave it the same formula. -/
theorem BodyGap.ofBody_insert {formula : Formula} (hgap : BodyGap front back)
    (hspace : ∀ c ∈ space, Text.isBlank c = true) (h : ofBody (front ++ back) = .ok formula) :
    Text.IsTrimmed Text.isBlank (front ++ (space ++ back)) ∧
      ofBody (front ++ (space ++ back)) = .ok formula := by
  cases hgap with
  | sign htrim hcall hsign hnext =>
      rw [← h]
      exact ofBody_insert_of_sign htrim hcall hsign hnext hspace
  | @argument f name front back hname hne hopen hargument =>
      rw [call_append, ofBody_of_isCall (.intro hname hne hopen), ofCall_eq_ok_iff] at h
      rcases h with ⟨corners, hcorners, hformula⟩
      have hcall : IsCall (name ++ '(' :: (front ++ (space ++ back) ++ [')'])) f
          (front ++ (space ++ back)) := by
        refine .intro hname ?_ ?_
        · simp only [ne_eq, List.append_eq_nil_iff, not_and] at hne ⊢
          exact fun hfront _ hback => hne hfront hback
        · -- No bracket is blank, so the call closes where it did.
          have hclosing : ')' ∉ space := fun hmem => absurd (hspace _ hmem) (by decide)
          simp only [List.mem_append, not_or] at hopen ⊢
          exact ⟨hopen.1, hclosing, hopen.2⟩
      rw [← List.append_assoc space, call_append]
      refine ⟨hcall.isTrimmed, ?_⟩
      rw [ofBody_of_isCall hcall, ofCall_eq_ok_iff]
      exact ⟨corners, hargument.written_insert hspace hcorners, hformula⟩

/-- A run of blanks that is put into a formula where blanks do not count leaves
    it the same formula. -/
theorem ofText_of_spaced_step {text text' : String} {formula : Formula}
    (hspaced : Spaced text text') (h : ofText text = .ok formula)
    (hformula : ∀ t, formula ≠ .literal t) : ofText text' = .ok formula := by
  rcases hspaced with @⟨front, space, back, htext, htext', hgap, hspace⟩
  cases hgap with
  | equals hleft hnext =>
      rcases hnext.exists_insert hspace with ⟨left', right', hinsert, hleft', hright⟩
      rw [Text.trim_eq_nil_iff.mpr hleft, Text.trim_eq_nil_iff] at hleft'
      rw [ofText_eq_ofBody hleft (htext.trans hnext.append_eq)] at h
      rw [ofText_eq_ofBody hleft' (htext'.trans hinsert), hright, h]
  | finish hback =>
      -- The end is trimmed before anything else, whatever the text is parsed to.
      have htrim : Text.trim Text.isBlank text'.toList = Text.trim Text.isBlank text.toList := by
        rw [htext', htext, Text.trim_append_right hback,
          Text.trim_append_right (List.forall_mem_append.mpr ⟨hspace, hback⟩)]
      cases Written.of_ofText h with
      | literal => exact absurd rfl (hformula _)
      | body hrest =>
          rw [ofText_of_equals hrest] at h
          rw [ofText_of_equals (htrim.trans hrest), h]
  | @body b₁ b₂ b₃ front back hb₁ hb₂ hb₃ hbody =>
      have htext : text.toList = b₁ ++ '=' :: (b₂ ++ (front ++ back ++ b₃)) := by
        rw [htext]
        simp only [List.append_assoc, List.cons_append]
      have htext' : text'.toList = b₁ ++ '=' :: (b₂ ++ (front ++ (space ++ back) ++ b₃)) := by
        rw [htext']
        simp only [List.append_assoc, List.cons_append]
      rw [ofText_eq_ofBody_of_isTrimmed hb₁ hb₂ hb₃ hbody.isTrimmed htext] at h
      rcases hbody.ofBody_insert hspace h with ⟨htrim, hbody⟩
      rw [ofText_eq_ofBody_of_isTrimmed hb₁ hb₂ hb₃ htrim htext', hbody]

/-- A formula is still read as the same one when runs of blanks are put into it,
    any number of them one after the other, where blanks do not count: around
    the equals sign, at the end of the text, next to the sign that splits the
    body, just inside the parentheses of a call and next to the colon in
    them. -/
theorem ofText_of_spaced {text text' : String} {formula : Formula} (h : ofText text = .ok formula)
    (hformula : ∀ t, formula ≠ .literal t) (hspaced : Relation.ReflTransGen Spaced text text') :
    ofText text' = .ok formula := by
  induction hspaced with
  | refl => exact h
  | tail _ hstep ih => exact ofText_of_spaced_step hstep ih hformula

/-- The line break keeps the plus sign from splitting the body, so the asterisk
    does. -/
theorem isFirstSign_product :
    IsFirstSign ("1+2\n".toList ++ Operator.mul.sign :: "3".toList) "1+2\n".toList.length .mul := by
  refine ⟨signAt_length_iff.mpr ⟨by decide, fun c hc => ?_, fun c hc => ?_⟩, ?_⟩
  · have hany : (Text.trim Text.isBlank "1+2\n".toList).any Text.isLineBreak = false := by decide
    exact Bool.eq_false_iff.mpr (List.any_eq_false.mp hany c hc)
  · have hany : (Text.trim Text.isBlank "3".toList).any Text.isLineBreak = false := by decide
    exact Bool.eq_false_iff.mpr (List.any_eq_false.mp hany c hc)
  · intro j hj op hearlier
    have hlt : j < 4 := hj
    interval_cases j
    · exact absurd hearlier.pos (Nat.lt_irrefl 0)
    · exact absurd (hearlier.right '\n' (by decide)) (by decide)
    · have hsign := hearlier.sign
      cases op <;> exact absurd hsign (by decide)
    · have hsign := hearlier.sign
      cases op <;> exact absurd hsign (by decide)

/-- A line break behind the sign that another line break has made the first one,
    and a byte order mark at the end. -/
theorem ofText_of_spaced_product :
    Relation.ReflTransGen Spaced "=1+2\n*3" "=1+2\n*\r3\uFEFF" ∧
      ofText "=1+2\n*3" = .ok (.binary .mul (.invalid "1+2") (.number (.ofNat 3))) ∧
      ofText "=1+2\n*\r3\uFEFF" = .ok (.binary .mul (.invalid "1+2") (.number (.ofNat 3))) := by
  have hformula : ofText "=1+2\n*3" = .ok (.binary .mul (.invalid "1+2") (.number (.ofNat 3))) :=
    Attempt.toOption_eq_some_iff.mp (by decide +kernel)
  have hnil : ∀ c ∈ ([] : List Char), Text.isBlank c = true :=
    fun c hc => absurd hc List.not_mem_nil
  have htrim : Text.IsTrimmed Text.isBlank ("1+2\n".toList ++ Operator.mul.sign :: "3".toList) := by
    have heq : Text.trim Text.isBlank "1+2\n*3".toList = "1+2\n*3".toList := by decide
    exact (Text.trim_eq_iff.mp heq).1
  have hcall : ∀ f argument,
      ¬ IsCall ("1+2\n".toList ++ Operator.mul.sign :: "3".toList) f argument := by
    refine not_isCall_of_head? fun c hc => ?_
    rw [← Option.mem_some_iff.mp hc]
    decide
  have hbody : BodyGap ("1+2\n".toList ++ Operator.mul.sign :: []) "3".toList :=
    .sign htrim hcall isFirstSign_product (.behind rfl hnil)
  have hbehind : Spaced "=1+2\n*3" "=1+2\n*\r3" :=
    @Spaced.intro _ _ _ ['\r'] _ rfl rfl (.body hnil hnil hnil hbody)
      (List.forall_mem_singleton.mpr (by decide))
  have hfinish : Spaced "=1+2\n*\r3" "=1+2\n*\r3\uFEFF" :=
    @Spaced.intro _ _ "=1+2\n*\r3".toList ['\uFEFF'] [] rfl rfl (.finish hnil)
      (List.forall_mem_singleton.mpr (by decide))
  have hspaced := (Relation.ReflTransGen.single hbehind).tail hfinish
  have hliteral : ∀ t, Formula.binary .mul (.invalid "1+2") (.number (.ofNat 3)) ≠ .literal t :=
    fun t => by simp only [ne_eq, reduceCtorEq, not_false_eq_true]
  exact ⟨hspaced, hformula, ofText_of_spaced hformula hliteral hspaced⟩

end Formula

end Worksheet
