import Worksheet.Proofs.Number.Language
import Worksheet.Proofs.Text.Case

/-!
# Numbers in Capitals

That a number is read alike in either case.

Letters stand in numbers where the mark of a radix, a digit above nine or the
mark of an exponent does, and each of these is read in either case. A word that
spells an infinity is no number in either case, so there is nothing to show
about its letters.

## Theorems

* `ignoresCase_radixOfMark?`, `ignoresCase_digitOfRadix?`: The letters of a
  literal with a radix.
* `radixLiteral?_capitals`, `decimalLiteral?_capitals`: The two kinds of
  literals.
* `ofChars?_capitals`: Numbers.
-/

namespace Worksheet

namespace Number

open Text

/-- The letter of a radix is known in either case. -/
theorem ignoresCase_radixOfMark? : IgnoresCase radixOfMark? :=
  ignoresCase_of_all (by decide)

/-- The digits of a radix are digits in either case, and have the same value. -/
theorem ignoresCase_digitOfRadix? {mark : Char} {radix : Nat} (h : RadixMark mark radix) :
    IgnoresCase (digitOfRadix? radix) := by
  cases h with
  | hexadecimal => exact ignoresCase_of_all (by decide)
  | octal => exact ignoresCase_of_all (by decide)
  | binary => exact ignoresCase_of_all (by decide)

/-- A literal with a radix is read alike in either case. -/
theorem radixLiteral?_capitals (cs : List Char) :
    radixLiteral? (capitals cs) = radixLiteral? cs := by
  by_cases hzero : ∃ mark digits, cs = '0' :: mark :: digits
  · rcases hzero with ⟨mark, digits, rfl⟩
    have hread : ∀ radix, radixOfMark? mark = some radix →
        (capitals digits).mapM (digitOfRadix? radix) = digits.mapM (digitOfRadix? radix) := by
      intro radix hmark
      have hdigits := ignoresCase_digitOfRadix? (radixOfMark?_eq_some_iff.mp hmark)
      have hcomp : digitOfRadix? radix ∘ Char.toUpper = digitOfRadix? radix := funext hdigits
      rw [capitals, List.mapM_map, hcomp]
    have hcapitals : capitals ('0' :: mark :: digits) = '0' :: mark.toUpper :: capitals digits :=
      rfl
    rw [hcapitals, radixLiteral?, radixLiteral?, ignoresCase_radixOfMark?]
    cases hmark : radixOfMark? mark with
    | none => rfl
    | some radix => simp only [Option.bind_eq_bind, Option.bind_some, hread radix hmark]
  · have hnone : ∀ ds : List Char, (¬ ∃ mark digits, ds = '0' :: mark :: digits) →
        radixLiteral? ds = none := by
      intro ds hds
      unfold radixLiteral?
      split
      · exact absurd ⟨_, _, rfl⟩ hds
      · rfl
    rw [hnone cs hzero, hnone (capitals cs)]
    -- The zero is no letter, so it was there before the text was put in capitals.
    rintro ⟨mark, digits, hcs⟩
    rcases List.map_eq_cons_iff.mp hcs with ⟨c, rest, rfl, hc, hrest⟩
    rcases List.map_eq_cons_iff.mp hrest with ⟨mark', digits', rfl, -, -⟩
    exact hzero ⟨mark', digits', by rw [(toUpper_eq_iff (by decide)).mp hc]⟩

/-- The sign is no letter. -/
theorem splitSign_capitals (cs : List Char) :
    splitSign (capitals cs) = ((splitSign cs).1, capitals (splitSign cs).2) := by
  have hunsigned : ∀ ds : List Char, (∀ c ∈ ds.head?, c ≠ '-' ∧ c ≠ '+') →
      splitSign ds = (false, ds) := fun ds hds => splitSign_append .missing hds
  cases cs with
  | nil => rfl
  | cons c rest =>
      by_cases hminus : c = '-'
      · subst hminus
        rfl
      · by_cases hplus : c = '+'
        · subst hplus
          rfl
        · rw [hunsigned (c :: rest), hunsigned (capitals (c :: rest))]
          · rintro d ⟨⟩
            rw [ne_eq, toUpper_eq_iff (by decide), ne_eq, toUpper_eq_iff (by decide)]
            exact ⟨hminus, hplus⟩
          · rintro d ⟨⟩
            exact ⟨hminus, hplus⟩

/-- The mark of an exponent is known in either case. -/
theorem exponentPart?_capitals (cs : List Char) :
    exponentPart? (capitals cs) = exponentPart? cs := by
  have hmark : IgnoresCase fun e => e == 'e' || e == 'E' := ignoresCase_of_all (by decide)
  cases cs with
  | nil => rfl
  | cons e rest =>
      by_cases hdigits : (splitSign rest).2.all Char.isDigit = true
      · have hself := capitals_of_isDigit (List.all_eq_true.mp hdigits)
        simp only [capitals_cons, exponentPart?, splitSign_capitals, hself, hmark e]
      · rw [Bool.not_eq_true] at hdigits
        simp only [capitals_cons, exponentPart?, splitSign_capitals, all_capitals ignoresCase_isDigit,
          hdigits, Bool.and_false, Bool.false_eq_true, if_false]

theorem takeWhile_isDigit_capitals (cs : List Char) :
    (capitals cs).takeWhile Char.isDigit = cs.takeWhile Char.isDigit := by
  rw [takeWhile_capitals ignoresCase_isDigit]
  exact capitals_of_isDigit fun c hc => List.mem_takeWhile_imp hc

/-- Neither the point nor the digits behind it are letters. -/
theorem splitFraction_capitals (cs : List Char) :
    splitFraction (capitals cs) = ((splitFraction cs).1, capitals (splitFraction cs).2) := by
  have hnone : ∀ ds : List Char, ds.head? ≠ some '.' → splitFraction ds = ([], ds) := by
    intro ds hds
    unfold splitFraction
    split
    · exact absurd rfl hds
    · rfl
  by_cases hpoint : cs.head? = some '.'
  · rcases List.head?_eq_some_iff.mp hpoint with ⟨rest, rfl⟩
    have hcapitals : capitals ('.' :: rest) = '.' :: capitals rest := rfl
    rw [hcapitals, splitFraction, takeWhile_isDigit_capitals,
      dropWhile_capitals ignoresCase_isDigit, splitFraction]
  · have hpoint' := (head?_capitals_eq_some_iff (by decide)).not.mpr hpoint
    rw [hnone cs hpoint, hnone (capitals cs) hpoint']

/-- A decimal literal is read alike in either case. -/
theorem decimalLiteral?_capitals (cs : List Char) :
    decimalLiteral? (capitals cs) = decimalLiteral? cs := by
  rw [decimalLiteral?_eq (capitals cs) _ _ rfl rfl, decimalLiteral?_eq cs _ _ rfl rfl]
  simp only [splitSign_capitals, takeWhile_isDigit_capitals, dropWhile_capitals ignoresCase_isDigit,
    splitFraction_capitals, exponentPart?_capitals]

/-- Literals are read alike in either case. -/
theorem literal?_capitals (cs : List Char) : literal? (capitals cs) = literal? cs := by
  rw [literal?_eq, radixLiteral?_capitals, decimalLiteral?_capitals, literal?_eq]

/-- A number is read alike in either case. -/
theorem ofChars?_capitals (cs : List Char) : ofChars? (capitals cs) = ofChars? cs := by
  have hcomma : IgnoresCase (· != ',') := ignoresCase_of_all (by decide)
  simp only [ofChars?, trim_capitals ignoresCase_isBlank, filter_capitals hcomma,
    isEmpty_capitals, literal?_capitals]

end Number

end Worksheet
