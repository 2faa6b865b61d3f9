import Worksheet.Proofs.Number.Overflow

/-!
# Accepted Numbers

Which texts are numbers, and what they are worth.

What a decimal literal is worth is said without the way in which it is read.
It stands for a sign and an exact decimal, and the number is the one nearest
to the decimal, with that sign; of two that are equally near it is the one with
the even significand. There is exactly one such number unless the decimal is
out of range, and then the text is no number at all. A literal with a radix is
worth what its digits leave when they are read one by one, and it is a number
as long as that is finite.

Nothing else is a number: neither the words that spell an infinity, nor a
radix with a sign in front of it, nor digits with blanks between them.

## Main definitions

* `Number.Nearest`: The number with a sign that is nearest to a size.

## Theorems

* `Decimal.rounded_lt_unitLimit_iff`: Which decimals are in range.
* `Number.Nearest.unique`: There is only one nearest number.
* `Number.nearest_ofNat`: Whole numbers that are not rounded.
* `Number.ofDecimal_and_isFinite_iff`: A decimal is read as the number nearest
  to it.
* `Number.literal?_eq_some_iff_nearest`: What is read of a literal.
* `Number.ofText?_iff_literal`: The numbers among all texts.
-/

namespace Worksheet

open Rounding (Short IsNearest roundUnits unitBits unitLimit)

/-- A decimal is rounded to a finite number when it is in range. -/
theorem Decimal.rounded_lt_unitLimit_iff {d : Decimal} :
    d.rounded < unitLimit ↔ d.value < Number.overflowBound := by
  have hlimit := @Number.unitLimit_le_roundUnits_iff
    (Number.quotientOver d.digits d.exponent d.exponent.natAbs) _ (ten_pow_pos d.exponent.natAbs)
  rw [quotientOver_div (show 0 ≤ d.exponent + d.exponent.natAbs by omega),
    mul_le_mul_iff_of_pos_right unitsOfOne_pos] at hlimit
  rw [← not_le, ← not_le, rounded, hlimit]

namespace Number

open Decimal (unitsOfOne)

/-- The number with a sign that is nearest to a size. Of two that are equally
    near it is the one with the even significand. -/
inductive Nearest (negative : Bool) (q : ℚ) : Number → Prop where
  | intro {m : Magnitude} (h : IsNearest (q * unitsOfOne) m.units) :
      Nearest negative q (finite negative m)

variable {negative : Bool} {q : ℚ} {x y : Number}

theorem Nearest.isFinite (h : Nearest negative q x) : x.isFinite = true := by
  cases h with
  | intro => rfl

/-- There is only one number that is nearest. -/
theorem Nearest.unique (hx : Nearest negative q x) (hy : Nearest negative q y) : x = y := by
  rcases hx with ⟨hm⟩
  rcases hy with ⟨hn⟩
  rename_i m n
  rcases m with ⟨i, hi⟩
  rcases n with ⟨j, hj⟩
  rw [finite.injEq, Magnitude.mk.injEq]
  exact ⟨rfl, hm.unique hn⟩

/-- The number with the other sign is nearest to the same size. -/
theorem Nearest.neg (h : Nearest negative q x) : Nearest (!negative) q (-x) := by
  cases h with
  | intro hm => exact .intro hm

/-- A natural number that is not rounded is nearest to itself. -/
theorem nearest_ofNat {n : Nat} (hn : Short n) (h : n < wholeLimit) :
    Nearest false n (ofNat n) := by
  rcases exists_ofNat_of_short hn h with ⟨m, hm, hunits⟩
  rw [hm]
  refine .intro ?_
  rw [unitsOfOne, ← Nat.cast_mul, hunits]
  exact Rounding.isNearest_self (hn.mul_two_pow unitBits)

/-- A decimal in range is read as the number nearest to it, and the others as
    no finite number. -/
theorem ofDecimal_and_isFinite_iff {d : Decimal} :
    ofDecimal negative d = x ∧ x.isFinite = true ↔
      d.value < overflowBound ∧ Nearest negative d.value x := by
  rw [← Decimal.rounded_lt_unitLimit_iff]
  constructor
  · rintro ⟨hread, hfinite⟩
    rcases isFinite_iff.mp hfinite with ⟨sign, m, rfl⟩
    -- The sign is that of the literal, also in front of a zero.
    have hsign : sign = negative := by
      rw [ofDecimal_eq_ofQuotient_rounded] at hread
      split_ifs at hread
      rw [finite.injEq] at hread
      exact hread.1.symm
    subst hsign
    have hunits := ofDecimal_eq_finite_iff.mp hread
    refine ⟨hunits ▸ m.representable.1, .intro ?_⟩
    rw [← hunits]
    exact d.isNearest_rounded
  · rintro ⟨-, hnearest⟩
    refine ⟨?_, hnearest.isFinite⟩
    rcases hnearest with ⟨hm⟩
    exact ofDecimal_eq_finite_iff.mpr (d.isNearest_rounded.unique hm)

/-- A literal is read with a radix as the finite number that its digits leave,
    and as a decimal in range as the number nearest to it. -/
theorem literal?_eq_some_iff_nearest {cs : List Char} : literal? cs = some x ↔
    (RadixLiteral cs x ∧ x.isFinite = true) ∨
      ∃ negative d, DecimalLiteral cs negative d ∧
        d.value < overflowBound ∧ Nearest negative d.value x := by
  rw [literal?_eq_some_iff, Literal, or_and_right]
  simp only [← exists_and_right, and_assoc, ofDecimal_and_isFinite_iff]

/-- A decimal literal is a number exactly when its decimal is in range. -/
theorem DecimalLiteral.isSome_literal?_iff {cs : List Char} {d : Decimal}
    (h : DecimalLiteral cs negative d) :
    (literal? cs).isSome = true ↔ d.value < overflowBound := by
  have hread : literal? cs = (some (ofDecimal negative d)).filter isFinite := by
    rw [literal?_eq, radixLiteral?_eq_none h.radixOfMark?_eq_none,
      decimalLiteral?_eq_some_iff.mpr ⟨_, _, h, rfl⟩]
    rfl
  rw [hread, Option.isSome_filter, ← Decimal.rounded_lt_unitLimit_iff,
    ofDecimal_eq_ofQuotient_rounded]
  split_ifs with hlt
  · exact iff_of_true rfl hlt
  · exact iff_of_false Bool.false_ne_true hlt

/-- A blank text is no number. Any other is zero when nothing is left of it
    without its commas and blanks. Else it is a number when a literal is left
    whose value is in range: with a radix, what its digits leave, and otherwise
    the number nearest to its decimal. Commas put into it change nothing. -/
theorem ofText?_iff_literal (text : String) :
    ((∀ c ∈ text.toList, Text.isBlank c = true) → ofText? text = none) ∧
      (¬ (∀ c ∈ text.toList, Text.isBlank c = true) →
        (cleaned text.toList = [] → ofText? text = some (zero false)) ∧
        (cleaned text.toList ≠ [] →
          (∀ x, ofText? text = some x ↔
            (RadixLiteral (cleaned text.toList) x ∧ x.isFinite = true) ∨
              ∃ negative d, DecimalLiteral (cleaned text.toList) negative d ∧
                d.value < overflowBound ∧ Nearest negative d.value x) ∧
          ∀ negative d, DecimalLiteral (cleaned text.toList) negative d →
            ((ofText? text).isSome = true ↔ d.value < overflowBound)) ∧
        ∀ other : String, WithCommas text.toList other.toList → ofText? other = ofText? text) := by
  refine ⟨ofChars?_of_blank, fun h => ⟨fun hnil => ?_, fun hne => ⟨fun x => ?_, ?_⟩,
    fun other hother => ?_⟩⟩
  · rw [ofText?, ofChars?_of_not_blank h, if_pos hnil]
  · rw [ofText?, ofChars?_of_not_blank h, if_neg hne, literal?_eq_some_iff_nearest]
  · intro negative d hd
    rw [ofText?, ofChars?_of_not_blank h, if_neg hne, hd.isSome_literal?_iff]
  · have hcleaned : cleaned other.toList = cleaned text.toList :=
      congrArg (Text.trim Text.isBlank) hother.filter_eq
    have hother : ¬ ∀ c ∈ other.toList, Text.isBlank c = true :=
      fun hall => h fun c hc => hall c (hother.subset hc)
    rw [ofText?, ofText?, ofChars?_of_not_blank h, ofChars?_of_not_blank hother, hcleaned]

/-- A byte order mark, a lone comma, a capital radix and a decimal with commas
    and blanks around them, a decimal out of range, and a word. -/
theorem ofText?_iff_literal_commas :
    ((∀ c ∈ "\uFEFF ".toList, Text.isBlank c = true) ∧ ofText? "\uFEFF " = none) ∧
      (¬ (∀ c ∈ " , ".toList, Text.isBlank c = true) ∧ cleaned " , ".toList = [] ∧
        ofText? " , " = some (zero false)) ∧
      (¬ (∀ c ∈ " ,0X1f".toList, Text.isBlank c = true) ∧ cleaned " ,0X1f".toList ≠ [] ∧
        ofText? " ,0X1f" = some (ofNat 31) ∧ WithCommas " ,0X1f".toList " ,0X,1f,".toList ∧
        ofText? " ,0X,1f," = ofText? " ,0X1f") ∧
      (ofText? " -1,234.5e1" = some (-ofNat 12345) ∧ ofText? "1e999" = none) ∧
      ofText? "-Infinity" = none := by
  have hblank : ∀ c ∈ "\uFEFF ".toList, Text.isBlank c = true :=
    List.all_eq_true.mp (by decide)
  have hany : ∀ c : Char, Text.isBlank c = false → ∀ text : String, c ∈ text.toList →
      ¬ ∀ c ∈ text.toList, Text.isBlank c = true :=
    fun c hc text hmem h => absurd (h c hmem) (Bool.eq_false_iff.mp hc)
  have hcomma := hany ',' (by decide) " , " (by decide)
  have hradix := hany ',' (by decide) " ,0X1f" (by decide)
  have hcleaned : cleaned " ,0X1f".toList = '0' :: 'X' :: ['1', 'f'] := by decide
  have hne : cleaned " ,0X1f".toList ≠ [] := by decide
  have hcommas : WithCommas " ,0X1f".toList " ,0X,1f,".toList :=
    .keep ' ' (.keep ',' (.keep '0' (.keep 'X' (.comma (.keep '1' (.keep 'f' (.comma .nil)))))))
  have hdigits : List.Forall₂ (DigitOf 16) ['1', 'f'] [1, 15] :=
    .cons ⟨by decide, _, List.mem_cons_self, by decide⟩
      (.cons ⟨by decide, _, List.mem_cons_self, by decide⟩ .nil)
  have hfold : [1, 15].foldl (appendDigit 16) (zero false) = ofNat 31 := by
    decide +kernel
  have hliteral : RadixLiteral (cleaned " ,0X1f".toList) (ofNat 31) := by
    rw [hcleaned, ← hfold]
    exact .intro (.hexadecimal (.inr rfl)) (List.cons_ne_nil _ _) hdigits
  have hfinite : (ofNat 31).isFinite = true := by decide +kernel
  -- The decimal literals: an integer that is its own nearest number, and one that is too large.
  have hinteger : DecimalLiteral (cleaned " -1,234.5e1".toList) true ⟨12345, 0⟩ := by
    have hparts : cleaned " -1,234.5e1".toList =
        ['-'] ++ (['1', '2', '3', '4'] ++ (('.' :: ['5']) ++ ('e' :: ([] ++ ['1'])))) := by decide
    rw [hparts]
    exact .intro .minus (List.all_eq_true.mp (by decide)) (.point (List.all_eq_true.mp (by decide)))
      (by decide) (.digits (.inl rfl) .missing (by decide) (List.all_eq_true.mp (by decide)))
  have hlarge : DecimalLiteral (cleaned "1e999".toList) false ⟨1, 999⟩ := by
    have hparts : cleaned "1e999".toList =
        [] ++ (['1'] ++ ([] ++ ('e' :: ([] ++ ['9', '9', '9'])))) := by decide
    rw [hparts]
    exact .intro .missing (List.all_eq_true.mp (by decide)) .missing (by decide)
      (.digits (.inl rfl) .missing (by decide) (List.all_eq_true.mp (by decide)))
  have hvalue : (Decimal.mk 12345 0).value = (12345 : Nat) := Decimal.value_natCast 12345 0
  have hnearest : Nearest true (Decimal.mk 12345 0).value (-ofNat 12345) := by
    rw [hvalue]
    exact (nearest_ofNat (Rounding.short_of_le (by decide)) (by decide +kernel)).neg
  have hin : (Decimal.mk 12345 0).value < overflowBound := by
    rw [hvalue]
    exact Nat.cast_lt.mpr (by decide +kernel)
  have hout : ¬ (Decimal.mk 1 999).value < overflowBound :=
    not_lt.mpr (le_of_le_of_eq (Nat.cast_le.mpr (by decide +kernel))
      (Decimal.value_natCast 1 999).symm)
  rcases (ofText?_iff_literal " ,0X1f").2 hradix with ⟨-, hread, hinsert⟩
  have hread' := ((ofText?_iff_literal " -1,234.5e1").2 (hany '1' (by decide) _ (by decide))).2.1
    (by decide)
  have hread'' := ((ofText?_iff_literal "1e999").2 (hany '1' (by decide) _ (by decide))).2.1
    (by decide)
  exact ⟨⟨hblank, (ofText?_iff_literal "\uFEFF ").1 hblank⟩,
    ⟨hcomma, by decide, ((ofText?_iff_literal " , ").2 hcomma).1 (by decide)⟩,
    ⟨hradix, hne, ((hread hne).1 _).mpr (.inl ⟨hliteral, hfinite⟩), hcommas, hinsert _ hcommas⟩,
    ⟨(hread'.1 _).mpr (.inr ⟨_, _, hinteger, hin, hnearest⟩),
      Option.not_isSome_iff_eq_none.mp (mt (hread''.2 _ _ hlarge).mp hout)⟩, by decide +kernel⟩

end Number

end Worksheet
