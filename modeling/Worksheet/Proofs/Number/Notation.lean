import Worksheet.Number.Notation
import Worksheet.Proofs.Text.Blank

/-!
# What Numbers Are Written In

The characters of a printed number.

However a number is written, positionally, with an exponent or by a name, its
text consists of letters and digits, points and signs, and there is at least
one of them. So it begins like no formula, and it has nothing at its ends that
a reader would throw away.

## Main definitions

* `Number.IsNotation`: A character that numbers are written in.

## Theorems

* `Number.isNotation_chars`: Numbers are written in these characters.
* `Number.trim_chars`: Trimming leaves them.
* `Number.chars_ne_nil`: No number is written as nothing.
-/

namespace Worksheet

namespace Number

/-- The character occurs in the texts of numbers. -/
def IsNotation (c : Char) : Prop :=
  c.isAlphanum = true ∨ c = '.' ∨ c = '+' ∨ c = '-'

instance (c : Char) : Decidable (IsNotation c) :=
  inferInstanceAs (Decidable (_ ∨ _))

/-- Digits occur in printed numbers. -/
theorem isNotation_of_isDigit {c : Char} (h : c.isDigit = true) : IsNotation c :=
  .inl (Text.isAlphanum_of_isDigit h)

/-- The digits of a natural number are digits. -/
theorem isDigit_toDigits (n : Nat) : ∀ c ∈ Nat.toDigits 10 n, c.isDigit = true :=
  fun _ hc => Nat.isDigit_of_mem_toDigits (by decide) (by decide) hc

theorem isDigit_zeros (k : Nat) : ∀ c ∈ List.replicate k '0', c.isDigit = true := by
  intro c hc
  rw [List.eq_of_mem_replicate hc]
  decide

/-- The zeros that are left out stand at the end. -/
theorem isDigit_significantDigits (d : Decimal) :
    ∀ c ∈ (significantDigits d).1, c.isDigit = true := by
  have hpre : (significantDigits d).1 <+: Nat.toDigits 10 d.digits :=
    List.rdropWhile_prefix (· == '0') _
  exact fun c hc => isDigit_toDigits d.digits c (hpre.subset hc)

theorem isNotation_zeros (k : Nat) : ∀ c ∈ List.replicate k '0', IsNotation c :=
  fun c hc => isNotation_of_isDigit (isDigit_zeros k c hc)

variable {digits : List Char}

/-- Nothing else occurs where the digits are written out. -/
theorem isNotation_positional (h : ∀ c ∈ digits, IsNotation c) (point : Int) :
    ∀ c ∈ positional digits point, IsNotation c := by
  unfold positional
  split_ifs with hbelow hwhole
  · rw [List.forall_mem_append, List.forall_mem_cons, List.forall_mem_cons]
    exact ⟨⟨by decide, by decide, isNotation_zeros _⟩, h⟩
  · rw [List.forall_mem_append]
    exact ⟨h, isNotation_zeros _⟩
  · rw [List.forall_mem_append, List.forall_mem_cons]
    exact ⟨fun c hc => h c (List.mem_of_mem_take hc), by decide,
      fun c hc => h c (List.mem_of_mem_drop hc)⟩

/-- Digits followed by an exponent are printed with no character but those of a
    number. -/
theorem isNotation_scientific (h : ∀ c ∈ digits, IsNotation c) (point : Int) :
    ∀ c ∈ scientific digits point, IsNotation c := by
  have hfraction : ∀ c ∈ (if digits.length ≤ 1 then [] else '.' :: digits.drop 1),
      IsNotation c := by
    split_ifs
    · exact fun c hc => absurd hc List.not_mem_nil
    · rw [List.forall_mem_cons]
      exact ⟨by decide, fun c hc => h c (List.mem_of_mem_drop hc)⟩
  have hsign : IsNotation (if point - 1 < 0 then '-' else '+') := by
    split_ifs <;> decide
  simp only [scientific, List.forall_mem_append, List.forall_mem_cons]
  exact ⟨⟨fun c hc => h c (List.mem_of_mem_take hc), hfraction⟩, by decide, hsign,
    fun c hc => isNotation_of_isDigit (isDigit_toDigits _ c hc)⟩

/-- A printed magnitude has no character but those of a number. -/
theorem isNotation_magnitudeChars (m : Magnitude) : ∀ c ∈ magnitudeChars m, IsNotation c := by
  have hdigits : ∀ c ∈ (significantDigits (Decimal.shortest .above m)).1, IsNotation c :=
    fun c hc => isNotation_of_isDigit (isDigit_significantDigits _ c hc)
  unfold magnitudeChars
  simp only
  split_ifs
  · exact isNotation_positional hdigits _
  · exact isNotation_scientific hdigits _

/-- Unfolding by name would compute with the number, so the case is taken once
    and for all. -/
theorem chars_finite (negative : Bool) (m : Magnitude) : (finite negative m).chars =
    if m.units = 0 then ['0']
    else if negative then '-' :: magnitudeChars m
    else magnitudeChars m :=
  rfl

/-- For single texts this can be computed. -/
theorem isNotation_of_all {cs : List Char} (h : cs.all (fun c => decide (IsNotation c)) = true) :
    ∀ c ∈ cs, IsNotation c :=
  fun c hc => of_decide_eq_true (List.all_eq_true.mp h c hc)

/-- Numbers are written in letters and digits, points and signs. -/
theorem isNotation_chars (x : Number) : ∀ c ∈ x.chars, IsNotation c := by
  cases x with
  | nan => exact isNotation_of_all (by decide)
  | infinity negative => cases negative <;> exact isNotation_of_all (by decide)
  | finite negative m =>
      rw [chars_finite]
      split_ifs
      · rw [List.forall_mem_singleton]
        decide
      · rw [List.forall_mem_cons]
        exact ⟨by decide, isNotation_magnitudeChars m⟩
      · exact isNotation_magnitudeChars m

/-- No blank occurs in a printed number. -/
theorem isBlank_eq_false_of_isNotation {c : Char} (h : IsNotation c) :
    Text.isBlank c = false := by
  rcases h with halphanum | rfl | rfl | rfl
  · exact Text.isBlank_eq_false_of_isAlphanum halphanum
  · decide
  · decide
  · decide

/-- Nothing of a printed number is trimmed. -/
theorem trim_chars (x : Number) : Text.trim Text.isBlank x.chars = x.chars := by
  refine (Text.isTrimmed_of_forall fun c hc => ?_).trim_eq_self
  exact isBlank_eq_false_of_isNotation (isNotation_chars x c hc)

theorem positional_ne_nil (digits : List Char) (point : Int) : positional digits point ≠ [] := by
  unfold positional
  split_ifs with hbelow hwhole
  · exact List.cons_ne_nil _ _
  · -- With no digits at all there are zeros up to the point.
    rw [ne_eq, List.append_eq_nil_iff, List.replicate_eq_nil_iff]
    rintro ⟨rfl, hzeros⟩
    rw [List.length_nil] at hzeros
    omega
  · exact List.append_ne_nil_of_right_ne_nil _ (List.cons_ne_nil _ _)

/-- Every magnitude is printed with at least one character. -/
theorem magnitudeChars_ne_nil (m : Magnitude) : magnitudeChars m ≠ [] := by
  unfold magnitudeChars
  simp only
  split_ifs
  · exact positional_ne_nil _ _
  · exact List.append_ne_nil_of_right_ne_nil _ (List.cons_ne_nil _ _)

/-- No number is written as nothing. -/
theorem chars_ne_nil (x : Number) : x.chars ≠ [] := by
  cases x with
  | nan => decide
  | infinity negative => cases negative <;> decide
  | finite negative m =>
      rw [chars_finite]
      split_ifs
      · exact List.cons_ne_nil _ _
      · exact List.cons_ne_nil _ _
      · exact magnitudeChars_ne_nil m

end Number

end Worksheet
