import Mathlib.Data.List.DropRight
import Mathlib.Data.UInt
import Worksheet.Text.Blank

/-!
# Cutting and Trimming

What is left of a text when a class of characters is cut off its ends.

A reader walks over the longest stretch of a class and goes on behind it. The
stretch and the rest put together are the text again, the stretch consists of
the class, and the rest does not begin with it; there is only one way to cut a
text like that, so these three facts describe the cut completely. Proofs about
readers use them and never the walk itself.

## Main definitions

* `IsTrimmed`: No character of a class stands at either end.

## Theorems

* `isWhite_eq_false_of_isAlphanum`, `isBlank_eq_false_of_isAlphanum`: Letters
  and digits are neither white space nor blanks.
* `takeWhile_eq_and_dropWhile_eq_iff`: The one way to cut a class off the front.
* `takeWhile_and_dropWhile_append_cons`: A character outside the class ends
  what is cut off.
* `takeWhile_and_dropWhile_bne`: The cut at the first place of a character.
* `trim_eq_nil_iff`: Nothing is left exactly of a text in the class.
* `isTrimmed_trim`, `trim_eq_iff`: Trimming trims, and takes nothing but the class.
* `trim_append_cons`: Trimming on either side of a character that stays.
-/

namespace Worksheet

namespace Text

variable {p : Char → Bool} {cs front back : List Char}

/-- No character of a class stands at either end. -/
def IsTrimmed (p : Char → Bool) (cs : List Char) : Prop :=
  (∀ c ∈ cs.head?, p c = false) ∧ ∀ c ∈ cs.getLast?, p c = false

/-- The letters of ASCII, by their codes. -/
theorem isAlpha_iff {c : Char} : c.isAlpha = true ↔
    65 ≤ c.toNat ∧ c.toNat ≤ 90 ∨ 97 ≤ c.toNat ∧ c.toNat ≤ 122 := by
  have halpha : c.isAlpha = (c.isUpper || c.isLower) := rfl
  have hupper : c.isUpper = decide (c.val ≥ 'A'.val ∧ c.val ≤ 'Z'.val) := rfl
  have hlower : c.isLower = (decide (c.val ≥ 'a'.val) && decide (c.val ≤ 'z'.val)) := rfl
  simp only [halpha, hupper, hlower, Bool.or_eq_true, Bool.and_eq_true, decide_eq_true_eq,
    ge_iff_le, UInt32.le_iff_toNat_le]
  exact Iff.rfl

/-- The digits of ASCII, by their codes. -/
theorem isDigit_iff {c : Char} : c.isDigit = true ↔ 48 ≤ c.toNat ∧ c.toNat ≤ 57 := by
  simp only [Char.isDigit, Bool.and_eq_true, decide_eq_true_eq, ge_iff_le, UInt32.le_iff_toNat_le]
  exact Iff.rfl

/-- No digit is a letter. -/
theorem isAlpha_eq_false_of_isDigit {c : Char} (h : c.isDigit = true) : c.isAlpha = false := by
  rw [isDigit_iff] at h
  rw [Bool.eq_false_iff, ne_eq, isAlpha_iff]
  omega

theorem isAlphanum_of_isAlpha {c : Char} (h : c.isAlpha = true) : c.isAlphanum = true := by
  rw [Char.isAlphanum, h, Bool.true_or]

theorem isAlphanum_of_isDigit {c : Char} (h : c.isDigit = true) : c.isAlphanum = true := by
  rw [Char.isAlphanum, h, Bool.or_true]

/-- Letters and digits are not white space. -/
theorem isWhite_eq_false_of_isAlphanum {c : Char} (h : c.isAlphanum = true) :
    isWhite c = false := by
  -- The only white space this far down is a blank or a control character.
  rw [Char.isAlphanum, Bool.or_eq_true, isAlpha_iff, isDigit_iff] at h
  simp only [isWhite, whiteRanges, List.any_cons, List.any_nil, Bool.or_eq_false_iff,
    Bool.and_eq_false_iff, decide_eq_false_iff_not, and_true]
  omega

/-- Letters and digits are no blanks. -/
theorem isBlank_eq_false_of_isAlphanum {c : Char} (h : c.isAlphanum = true) :
    isBlank c = false := by
  have hmark : c ≠ '\uFEFF' := by
    rintro rfl
    exact absurd h (by decide)
  rw [isBlank, isWhite_eq_false_of_isAlphanum h, Bool.false_and, Bool.or_false]
  exact beq_eq_false_iff_ne.mpr hmark

/-- What is a letter as a capital is a letter. -/
theorem isAlpha_of_isAlpha_toUpper {c : Char} (h : c.toUpper.isAlpha = true) :
    c.isAlpha = true := by
  by_cases hlower : 97 ≤ c.val ∧ c.val ≤ 122
  · rw [UInt32.le_iff_toNat_le, UInt32.le_iff_toNat_le] at hlower
    exact isAlpha_iff.mpr (Or.inr hlower)
  · -- Only small letters are changed.
    have hupper : c.toUpper = c := dif_neg hlower
    rw [hupper] at h
    exact h

/-- No blank is a digit. -/
theorem isDigit_eq_false_of_isBlank {c : Char} (h : isBlank c = true) : c.isDigit = false := by
  by_contra hdigit
  rw [Bool.not_eq_false] at hdigit
  rw [isBlank_eq_false_of_isAlphanum (isAlphanum_of_isDigit hdigit)] at h
  exact absurd h Bool.false_ne_true

theorem forall_head?_cons {c : Char} (h : p c = false) : ∀ d ∈ (c :: cs).head?, p d = false := by
  intro d hd
  rw [List.head?_cons, Option.mem_some_iff] at hd
  exact hd ▸ h

/-- Nothing is dropped in front of a character outside the class. -/
theorem dropWhile_eq_self (h : ∀ c ∈ cs.head?, p c = false) : cs.dropWhile p = cs := by
  cases cs with
  | nil => rfl
  | cons c cs =>
      have hc : p c = false := h c rfl
      simp only [List.dropWhile_cons, hc, Bool.false_eq_true, if_false]

/-- What is left begins outside the class. -/
theorem head?_dropWhile (p : Char → Bool) (cs : List Char) :
    ∀ c ∈ (cs.dropWhile p).head?, p c = false := by
  intro c hc
  have hhead := List.head?_dropWhile_not p cs
  rw [Option.mem_def.mp hc] at hhead
  exact hhead

/-- There is one way to cut a text at the end of its first stretch of a
    class. -/
theorem takeWhile_eq_and_dropWhile_eq_iff (p : Char → Bool) (cs : List Char) :
    cs.takeWhile p = front ∧ cs.dropWhile p = back ↔
      cs = front ++ back ∧ (∀ c ∈ front, p c = true) ∧ ∀ c ∈ back.head?, p c = false := by
  constructor
  · rintro ⟨rfl, rfl⟩
    refine ⟨List.takeWhile_append_dropWhile.symm, ?_, head?_dropWhile p cs⟩
    intro c hc
    exact List.mem_takeWhile_imp hc
  · rintro ⟨rfl, hfront, hback⟩
    have hstop : back.takeWhile p = [] := by
      cases back with
      | nil => rfl
      | cons c back =>
          have hc : p c = false := hback c rfl
          simp only [List.takeWhile_cons, hc, Bool.false_eq_true, if_false]
    refine ⟨?_, ?_⟩
    · rw [List.takeWhile_append_of_pos hfront, hstop, List.append_nil]
    · rw [List.dropWhile_append_of_pos hfront, dropWhile_eq_self hback]

/-- The first character outside the class is where a text is cut. -/
theorem takeWhile_and_dropWhile_append_cons {c : Char} (hfront : ∀ d ∈ front, p d = true)
    (hc : p c = false) : (front ++ c :: back).takeWhile p = front ∧
      (front ++ c :: back).dropWhile p = c :: back :=
  (takeWhile_eq_and_dropWhile_eq_iff p _).mpr ⟨rfl, hfront, forall_head?_cons hc⟩

/-- What is in front of the first place of a character, and what is behind it. -/
theorem takeWhile_and_dropWhile_bne {c : Char} (hc : c ∉ front) (back : List Char) :
    (front ++ c :: back).takeWhile (· != c) = front ∧
      (front ++ c :: back).dropWhile (· != c) = c :: back := by
  refine takeWhile_and_dropWhile_append_cons (fun d hd => ?_) (bne_self_eq_false c)
  rw [bne_iff_ne]
  rintro rfl
  exact hc hd

theorem trimRight_eq_rdropWhile : trimRight p cs = cs.rdropWhile p := rfl

/-- Only texts of the class are trimmed to nothing. -/
theorem trim_eq_nil_iff : trim p cs = [] ↔ ∀ c ∈ cs, p c = true := by
  rw [trim, trimRight_eq_rdropWhile, List.rdropWhile_eq_nil_iff, trimLeft]
  constructor
  · intro h c hc
    rw [← @List.takeWhile_append_dropWhile _ p cs, List.mem_append] at hc
    rcases hc with hc | hc
    · exact List.mem_takeWhile_imp hc
    · exact h c hc
  · intro h c hc
    exact h c ((List.dropWhile_suffix p).subset hc)

/-- Trimming leaves nothing to trim. -/
theorem isTrimmed_trim : IsTrimmed p (trim p cs) := by
  refine ⟨fun c hc => ?_, fun c hc => ?_⟩
  · -- Trimming on the right keeps a head that is left.
    have hpre : trim p cs <+: cs.dropWhile p := List.rdropWhile_prefix p _
    rcases hpre with ⟨t, ht⟩
    refine head?_dropWhile p cs c ?_
    rw [← ht, List.head?_append, Option.mem_def.mp hc]
    rfl
  · have hne : trim p cs ≠ [] := by
      intro hnil
      rw [hnil] at hc
      exact absurd hc (by simp)
    have hlast := List.rdropWhile_last_not p (cs.dropWhile p) hne
    rw [Option.mem_def, List.getLast?_eq_some_getLast hne, Option.some.injEq] at hc
    rw [← hc]
    exact Bool.eq_false_iff.mpr hlast

/-- What is trimmed is what stands between the stretches of the class at the two
    ends, and there is only one way to cut a text like that. -/
theorem trim_eq_iff {middle : List Char} : trim p cs = middle ↔ IsTrimmed p middle ∧
    ∃ front back, cs = front ++ (middle ++ back) ∧ (∀ c ∈ front, p c = true) ∧
      ∀ c ∈ back, p c = true := by
  constructor
  · rintro rfl
    refine ⟨isTrimmed_trim, cs.takeWhile p, (cs.dropWhile p).rtakeWhile p, ?_, ?_, ?_⟩
    · rw [trim, trimLeft, trimRight_eq_rdropWhile, List.rdropWhile_append_rtakeWhile,
        List.takeWhile_append_dropWhile]
    · intro c hc
      exact List.mem_takeWhile_imp hc
    · intro c hc
      exact List.mem_rtakeWhile_imp hc
  · rintro ⟨hmiddle, front, back, rfl, hfront, hback⟩
    cases hcs : middle with
    | nil =>
        rw [trim_eq_nil_iff, List.nil_append]
        intro c hc
        rcases List.mem_append.mp hc with hc | hc
        · exact hfront c hc
        · exact hback c hc
    | cons m ms =>
        rw [← hcs]
        -- The middle is not empty and stops the trimming from both sides.
        have hhead : ∀ c ∈ (middle ++ back).head?, p c = false := by
          intro c hc
          rw [List.head?_append_of_ne_nil _ (hcs ▸ List.cons_ne_nil m ms)] at hc
          exact hmiddle.1 c hc
        have hlast : ∀ c ∈ middle.reverse.head?, p c = false := by
          rw [List.head?_reverse]
          exact hmiddle.2
        have hback' : ∀ c ∈ back.reverse, p c = true := by
          intro c hc
          exact hback c (List.mem_reverse.mp hc)
        rw [trim, trimLeft, List.dropWhile_append_of_pos hfront, dropWhile_eq_self hhead, trimRight,
          List.reverse_append, List.dropWhile_append_of_pos hback', dropWhile_eq_self hlast,
          List.reverse_reverse]

/-- What is trimmed already stays as it is. -/
theorem IsTrimmed.trim_eq_self (h : IsTrimmed p cs) : trim p cs = cs := by
  refine trim_eq_iff.mpr ⟨h, [], [], ?_, ?_, ?_⟩
  · rw [List.nil_append, List.append_nil]
  · exact fun c hc => absurd hc List.not_mem_nil
  · exact fun c hc => absurd hc List.not_mem_nil

/-- Trimming less before changes nothing. -/
theorem trim_trim {q : Char → Bool} (h : ∀ c, q c = true → p c = true) :
    trim p (trim q cs) = trim p cs := by
  rcases (@trim_eq_iff q cs _).mp rfl with ⟨-, front, back, hcs, hfront, hback⟩
  rcases (@trim_eq_iff p (trim q cs) _).mp rfl with ⟨htrim, front', back', hmiddle, hfront', hback'⟩
  refine (trim_eq_iff.mpr ⟨htrim, front ++ front', back' ++ back, ?_, ?_, ?_⟩).symm
  · calc cs = front ++ (trim q cs ++ back) := hcs
      _ = front ++ ((front' ++ (trim p (trim q cs) ++ back')) ++ back) := by rw [← hmiddle]
      _ = front ++ front' ++ (trim p (trim q cs) ++ (back' ++ back)) := by
        simp only [List.append_assoc]
  · rw [List.forall_mem_append]
    exact ⟨fun c hc => h c (hfront c hc), hfront'⟩
  · rw [List.forall_mem_append]
    exact ⟨hback', fun c hc => h c (hback c hc)⟩

/-- A text without any character of the class is trimmed. -/
theorem isTrimmed_of_forall (h : ∀ c ∈ cs, p c = false) : IsTrimmed p cs :=
  ⟨fun c hc => h c (List.mem_of_mem_head? hc), fun c hc => h c (List.mem_of_getLast? hc)⟩

/-- What is in front of a text does not count when it is of the class. -/
theorem trim_append_left (h : ∀ c ∈ front, p c = true) : trim p (front ++ cs) = trim p cs := by
  rw [trim, trimLeft, List.dropWhile_append_of_pos h, trim, trimLeft]

/-- Trimming does not notice what is trimmed at the end. -/
theorem trim_append_right (h : ∀ c ∈ back, p c = true) : trim p (cs ++ back) = trim p cs := by
  rcases (@trim_eq_iff p cs _).mp rfl with ⟨htrim, front, back', hcs, hfront, hback'⟩
  refine trim_eq_iff.mpr ⟨htrim, front, back' ++ back, ?_, hfront, ?_⟩
  · calc cs ++ back = front ++ (trim p cs ++ back') ++ back := by rw [← hcs]
      _ = front ++ (trim p cs ++ (back' ++ back)) := by simp only [List.append_assoc]
  · exact List.forall_mem_append.mpr ⟨hback', h⟩

/-- A text is trimmed when it begins and ends outside the class. -/
theorem isTrimmed_append (hfront : ∀ c ∈ front.head?, p c = false) (hne : front ≠ [])
    (hback : ∀ c ∈ back.getLast?, p c = false) (hne' : back ≠ []) :
    IsTrimmed p (front ++ back) := by
  refine ⟨?_, ?_⟩
  · rw [List.head?_append_of_ne_nil _ hne]
    exact hfront
  · rw [List.getLast?_append_of_ne_nil _ hne']
    exact hback

/-- A character in the middle stands at an end when there is nothing beside
    it. -/
theorem isTrimmed_append_cons {c : Char} (hfront : ∀ d ∈ front.head?, p d = false)
    (hc : p c = false) (hback : ∀ d ∈ back.getLast?, p d = false) :
    IsTrimmed p (front ++ c :: back) := by
  have hmiddle : ∀ d ∈ (c :: back).head?, p d = false := forall_head?_cons hc
  have hlast : ∀ d ∈ (c :: back).getLast?, p d = false := by
    intro d hd
    cases back with
    | nil => exact hmiddle d hd
    | cons b back =>
        rw [List.getLast?_cons_cons] at hd
        exact hback d hd
  cases front with
  | nil => exact ⟨hmiddle, hlast⟩
  | cons f front =>
      exact isTrimmed_append hfront (List.cons_ne_nil f front) hlast (List.cons_ne_nil c back)

/-- What is left ends outside the class. -/
theorem getLast?_trimRight (p : Char → Bool) (cs : List Char) :
    ∀ c ∈ (trimRight p cs).getLast?, p c = false := by
  rw [trimRight, List.getLast?_reverse]
  exact head?_dropWhile p cs.reverse

/-- What stands next to a character outside the class loses the class on the
    other side only. -/
theorem trim_append_cons {c : Char} (h : p c = false) (front back : List Char) :
    trim p (front ++ c :: back) = trimLeft p front ++ c :: trimRight p back := by
  refine trim_eq_iff.mpr ⟨isTrimmed_append_cons (head?_dropWhile p front) h
    (getLast?_trimRight p back), front.takeWhile p, back.rtakeWhile p, ?_,
    fun d hd => List.mem_takeWhile_imp hd, fun d hd => List.mem_rtakeWhile_imp hd⟩
  calc front ++ c :: back
      = front.takeWhile p ++ front.dropWhile p ++
          c :: (back.rdropWhile p ++ back.rtakeWhile p) := by
        rw [List.takeWhile_append_dropWhile, List.rdropWhile_append_rtakeWhile]
    _ = front.takeWhile p ++ (trimLeft p front ++ c :: trimRight p back ++ back.rtakeWhile p) := by
        simp only [trimLeft, trimRight_eq_rdropWhile, List.append_assoc, List.cons_append]

theorem trim_trimLeft : trim p (trimLeft p cs) = trim p cs := by
  rw [trim, trimLeft, trimLeft, dropWhile_eq_self (head?_dropWhile p cs), trim, trimLeft]

theorem trim_trimRight : trim p (trimRight p cs) = trim p cs := by
  have hback : ∀ c ∈ cs.rtakeWhile p, p c = true := fun c hc => List.mem_rtakeWhile_imp hc
  rw [← trim_append_right hback, trimRight_eq_rdropWhile, List.rdropWhile_append_rtakeWhile]

/-- A first character outside the class stays in front. -/
theorem exists_trim_cons {c : Char} (h : p c = false) :
    ∃ rest, trim p (c :: cs) = c :: rest ∧ trim p rest = trim p cs :=
  ⟨trimRight p cs, trim_append_cons h [] cs, trim_trimRight⟩

/-- Whatever is put into the middle, both ends stay trimmed. -/
theorem IsTrimmed.insert {middle : List Char} (h : IsTrimmed p (front ++ back))
    (hfront : front ≠ []) (hback : back ≠ []) : IsTrimmed p (front ++ (middle ++ back)) := by
  rw [IsTrimmed, List.head?_append_of_ne_nil _ hfront, List.getLast?_append_of_ne_nil _ hback] at h
  refine isTrimmed_append h.1 hfront ?_ (List.append_ne_nil_of_right_ne_nil _ hback)
  rw [List.getLast?_append_of_ne_nil _ hback]
  exact h.2

/-- A trimmed text does not begin with a stretch of the class. -/
theorem IsTrimmed.eq_nil_left (h : IsTrimmed p (front ++ back))
    (hfront : ∀ c ∈ front, p c = true) : front = [] := by
  cases front with
  | nil => rfl
  | cons c front =>
      have hc := h.1 c rfl
      rw [hfront c List.mem_cons_self] at hc
      exact absurd hc.symm Bool.false_ne_true

/-- A trimmed text does not end with a stretch of the class. -/
theorem IsTrimmed.eq_nil_right (h : IsTrimmed p (front ++ back))
    (hback : ∀ c ∈ back, p c = true) : back = [] := by
  by_contra hne
  have hlast := h.2 (back.getLast hne) (by
    rw [List.getLast?_append_of_ne_nil _ hne, List.getLast?_eq_some_getLast hne,
      Option.mem_some_iff])
  rw [hback _ (List.getLast_mem hne)] at hlast
  exact Bool.false_ne_true hlast.symm

/-- Between two texts that are not in the class nothing is cut off. -/
theorem trim_append_append (hfront : ¬ ∀ c ∈ front, p c = true) (hback : ¬ ∀ c ∈ back, p c = true)
    (middle : List Char) :
    trim p (front ++ (middle ++ back)) = trimLeft p front ++ (middle ++ trimRight p back) := by
  have hfirst : trimLeft p front ≠ [] := fun hnil => hfront (List.dropWhile_eq_nil_iff.mp hnil)
  have hlast : trimRight p back ≠ [] := fun hnil => hback (List.rdropWhile_eq_nil_iff.mp hnil)
  refine trim_eq_iff.mpr ⟨?_, front.takeWhile p, back.rtakeWhile p, ?_,
    fun c hc => List.mem_takeWhile_imp hc, fun c hc => List.mem_rtakeWhile_imp hc⟩
  · refine isTrimmed_append (head?_dropWhile p front) hfirst (fun c hc => ?_)
      (List.append_ne_nil_of_right_ne_nil _ hlast)
    rw [List.getLast?_append_of_ne_nil _ hlast, List.getLast?_eq_some_getLast hlast,
      Option.mem_some_iff] at hc
    exact hc ▸ Bool.eq_false_iff.mpr (List.rdropWhile_last_not p back hlast)
  · calc front ++ (middle ++ back)
        = front.takeWhile p ++ front.dropWhile p ++
            (middle ++ (back.rdropWhile p ++ back.rtakeWhile p)) := by
          rw [List.takeWhile_append_dropWhile, List.rdropWhile_append_rtakeWhile]
      _ = front.takeWhile p ++
            (trimLeft p front ++ (middle ++ trimRight p back) ++ back.rtakeWhile p) := by
          simp only [trimLeft, trimRight_eq_rdropWhile, List.append_assoc]

/-- What is left by trimming is still left when characters of the class are put
    in somewhere. -/
theorem mem_trim_insert {middle : List Char} (hmiddle : ∀ c ∈ middle, p c = true) {c : Char}
    (hc : c ∈ trim p (front ++ back)) : c ∈ trim p (front ++ (middle ++ back)) := by
  by_cases hfront : ∀ c ∈ front, p c = true
  · rw [trim_append_left hfront] at hc ⊢
    rwa [trim_append_left hmiddle]
  · by_cases hback : ∀ c ∈ back, p c = true
    · rw [trim_append_right hback] at hc
      rwa [trim_append_right (List.forall_mem_append.mpr ⟨hmiddle, hback⟩)]
    · have hnone := trim_append_append hfront hback []
      rw [List.nil_append, List.nil_append] at hnone
      rw [hnone, List.mem_append] at hc
      rw [trim_append_append hfront hback, List.mem_append, List.mem_append]
      exact hc.imp_right Or.inr

/-- Characters of the class that are put into a text are put in behind all that
    it begins with from outside the class. -/
theorem exists_of_append_eq {middle opening rest : List Char}
    (h : front ++ (middle ++ back) = opening ++ rest) (hmiddle : ∀ c ∈ middle, p c = true)
    (hne : middle ≠ []) (hopening : ∀ c ∈ opening, p c = false) :
    ∃ left, front = opening ++ left ∧ rest = left ++ (middle ++ back) := by
  rcases List.append_eq_append_iff.mp h with ⟨left, hleft, heq⟩ | ⟨left, hleft, heq⟩
  · -- What is left of the opening would begin with a character of the class.
    cases left with
    | nil => exact ⟨[], by rw [hleft, List.append_nil, List.append_nil], heq.symm⟩
    | cons c left =>
        have hmem : c ∈ middle := by
          have hhead := congrArg List.head? heq
          rw [List.head?_append_of_ne_nil _ hne, List.cons_append, List.head?_cons] at hhead
          exact List.mem_of_mem_head? hhead
        have hc := hopening c (hleft ▸ List.mem_append_right _ List.mem_cons_self)
        rw [hmiddle c hmem] at hc
        exact absurd hc.symm Bool.false_ne_true
  · exact ⟨left, hleft, heq⟩

/-- Something is left of every front part of a trimmed text. -/
theorem IsTrimmed.trim_take_ne_nil {i : Nat} (h : IsTrimmed p cs) (hne : cs ≠ []) (hi : 0 < i) :
    trim p (cs.take i) ≠ [] := by
  intro hnil
  cases cs with
  | nil => exact hne rfl
  | cons c cs =>
      have hmem : c ∈ (c :: cs).take i := by
        rw [← Nat.succ_pred_eq_of_pos hi, List.take_succ_cons]
        exact List.mem_cons_self
      have hc := trim_eq_nil_iff.mp hnil c hmem
      rw [h.1 c rfl] at hc
      exact Bool.false_ne_true hc

/-- Something is left of every back part but the empty one. -/
theorem IsTrimmed.trim_drop_eq_nil_iff {i : Nat} (h : IsTrimmed p cs) :
    trim p (cs.drop i) = [] ↔ cs.length ≤ i := by
  constructor
  · intro hnil
    by_contra hlt
    -- Whatever is dropped in front, the last character is still there.
    have hlast : (cs.drop i).getLast? = cs.getLast? := by
      rw [List.getLast?_drop, if_neg hlt]
    have hne : cs.drop i ≠ [] := by
      rw [ne_eq, List.drop_eq_nil_iff]
      exact hlt
    have hc := trim_eq_nil_iff.mp hnil _ (List.getLast_mem hne)
    rw [List.getLast?_eq_some_getLast hne] at hlast
    rw [h.2 _ hlast.symm] at hc
    exact Bool.false_ne_true hc
  · intro hle
    rw [List.drop_eq_nil_of_le hle]
    rfl

end Text

end Worksheet
