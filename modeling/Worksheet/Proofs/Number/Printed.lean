import Mathlib.Tactic.SplitIfs
import Worksheet.Proofs.Number.Decimal
import Worksheet.Proofs.Number.Digits
import Worksheet.Proofs.Number.Language
import Worksheet.Proofs.Number.Notation

/-!
# Printed Numbers Are Read

That what a number is shown with is read as that number.

However a number is written, its characters are digits around a point with an
exponent, and such characters spell a decimal. The zeros that were left out at
the end of the digits, or put in to reach the point, only move between the
digits of the decimal and its exponent, so its value is that of the shortest
decimal, which is read as the number. Nothing in the characters is thrown away
before they are read, and none of them announces a radix.

## Main definitions

* `Number.pointPart`: The point and the digits behind it.
* `Number.signed`: A minus in front.
* `Number.exponentChars`: A printed exponent.
* `Number.Spells`: Characters spell a decimal.

## Theorems

* `Number.literal?_signed`: What spells a decimal is read as its number.
* `Number.spells_positional`, `Number.spells_scientific`: Both ways of writing
  spell a decimal of the same value.
* `Number.ofText?_text`: Finite numbers are read as they were printed, but for
  the sign of zero, and others are not read.
-/

namespace Worksheet

namespace Number

open Numeral (decimalValue)

/-- The point and the digits behind it, where there are any. -/
def pointPart (fraction : List Char) : List Char :=
  if fraction.isEmpty then [] else '.' :: fraction

/-- Characters with a minus in front of them, where they have one. -/
def signed (negative : Bool) (cs : List Char) : List Char :=
  if negative then '-' :: cs else cs

/-- Digits around a point with an exponent behind them spell a decimal. -/
inductive Spells : List Char → Decimal → Prop where
  /-- There is a digit in front of the point. -/
  | parts {whole fraction tail : List Char} {exponent : Int} (hne : whole ≠ [])
      (hwhole : ∀ c ∈ whole, c.isDigit = true) (hfraction : ∀ c ∈ fraction, c.isDigit = true)
      (htail : ∀ c ∈ tail.head?, c.isDigit = false ∧ c ≠ '.')
      (hexponent : exponentPart? tail = some exponent)
      (hmarks : ∀ c ∈ tail, radixOfMark? c = none) :
      Spells (whole ++ (pointPart fraction ++ tail))
        ⟨decimalValue (whole ++ fraction), exponent - fraction.length⟩

theorem fraction_pointPart {fraction : List Char} (h : ∀ c ∈ fraction, c.isDigit = true) :
    Fraction (pointPart fraction) fraction := by
  cases fraction with
  | nil => exact .missing
  | cons c fraction => exact .point h

/-- What spells a decimal is a literal of it, with or without a minus. -/
theorem Spells.decimalLiteral {cs : List Char} {d : Decimal} (h : Spells cs d) (negative : Bool) :
    DecimalLiteral (signed negative cs) negative d := by
  cases h with
  | @parts whole fraction tail exponent hne hwhole hfraction htail hexponent hmarks =>
      have hliteral : ∀ {sign : List Char}, Sign sign negative → DecimalLiteral
          (sign ++ (whole ++ (pointPart fraction ++ tail))) negative
          ⟨decimalValue (whole ++ fraction), exponent - fraction.length⟩ :=
        fun hsign => .intro hsign hwhole (fraction_pointPart hfraction)
          (List.append_ne_nil_of_left_ne_nil hne _) (exponentPart?_eq_some_iff.mp hexponent)
      cases negative with
      | true => exact hliteral .minus
      | false => exact hliteral .missing

/-- What spells a decimal, with or without a minus, is read as its number when
    that is finite. -/
theorem literal?_signed {negative : Bool} {cs : List Char} {d : Decimal} (h : Spells cs d)
    (hfinite : (ofDecimal negative d).isFinite = true) :
    literal? (signed negative cs) = some (ofDecimal negative d) :=
  literal?_eq_some_iff.mpr ⟨.inr ⟨_, _, h.decimalLiteral negative, rfl⟩, hfinite⟩

variable {digits : List Char}

/-- Digits with a point among them spell the digits as one number, scaled by the
    places behind the point. -/
theorem spells_point {whole fraction : List Char} (hne : whole ≠ [])
    (hwhole : ∀ c ∈ whole, c.isDigit = true) (hfraction : ∀ c ∈ fraction, c.isDigit = true) :
    Spells (whole ++ pointPart fraction)
      ⟨decimalValue (whole ++ fraction), -(fraction.length : Int)⟩ := by
  have htail : ∀ c ∈ ([] : List Char).head?, c.isDigit = false ∧ c ≠ '.' := by
    rintro c ⟨⟩
  have hspells := Spells.parts hne hwhole hfraction htail rfl fun c hc =>
    absurd hc List.not_mem_nil
  rw [List.append_nil, Int.zero_sub] at hspells
  exact hspells

/-- Digits that are written out spell them, with the zeros that were put in to
    reach the point. -/
theorem spells_positional (hne : digits ≠ []) (hdigits : ∀ c ∈ digits, c.isDigit = true)
    (point : Int) : ∃ zeros : Nat, Spells (positional digits point)
      ⟨decimalValue digits * Nat.pow 10 zeros, point - digits.length - zeros⟩ := by
  unfold positional
  split_ifs with hbelow hwhole
  · -- The zeros behind the point are in front of the digits, so they count as
    -- places but not in the value.
    have hspells := @spells_point ['0'] (List.replicate point.natAbs '0' ++ digits)
      (List.cons_ne_nil _ _) (isDigit_zeros 1)
      (List.forall_mem_append.mpr ⟨isDigit_zeros _, hdigits⟩)
    have hfraction : pointPart (List.replicate point.natAbs '0' ++ digits) =
        '.' :: (List.replicate point.natAbs '0' ++ digits) :=
      if_neg fun h => hne (List.append_eq_nil_iff.mp (List.isEmpty_iff.mp h)).2
    have hvalue : decimalValue (['0'] ++ (List.replicate point.natAbs '0' ++ digits)) =
        decimalValue digits * Nat.pow 10 0 :=
      (Numeral.decimalValue_zeros_append (point.natAbs + 1) digits).trans (Nat.mul_one _).symm
    have hexponent : -((List.replicate point.natAbs '0' ++ digits).length : Int) =
        point - digits.length - (0 : Nat) := by
      rw [List.length_append, List.length_replicate]
      omega
    rw [hfraction, hvalue, hexponent] at hspells
    exact ⟨0, hspells⟩
  · -- The point is behind all digits, so zeros fill the places up to it and
    -- multiply the digits by a power of ten.
    have hspells := @spells_point (digits ++ List.replicate (point.toNat - digits.length) '0') []
      (List.append_ne_nil_of_left_ne_nil hne _)
      (List.forall_mem_append.mpr ⟨hdigits, isDigit_zeros _⟩)
      fun c hc => absurd hc List.not_mem_nil
    have hexponent : -(([] : List Char).length : Int) =
        point - digits.length - (point.toNat - digits.length : Nat) := by
      rw [List.length_nil]
      omega
    have hfraction : pointPart [] = [] := rfl
    rw [hfraction, List.append_nil, Numeral.decimalValue_append_zeros, hexponent] at hspells
    exact ⟨point.toNat - digits.length, hspells⟩
  · -- The point is among the digits and cuts them in two parts, none of them
    -- empty. Together the parts are the digits, with no zeros put in.
    have hdrop : digits.drop point.toNat ≠ [] := by
      rw [ne_eq, List.drop_eq_nil_iff]
      omega
    have htake : digits.take point.toNat ≠ [] := by
      rw [ne_eq, List.take_eq_nil_iff, not_or]
      exact ⟨by omega, hne⟩
    have hspells := @spells_point (digits.take point.toNat) (digits.drop point.toNat) htake
      (fun c hc => hdigits c (List.mem_of_mem_take hc))
      (fun c hc => hdigits c (List.mem_of_mem_drop hc))
    have hfraction : pointPart (digits.drop point.toNat) = '.' :: digits.drop point.toNat :=
      if_neg fun h => hdrop (List.isEmpty_iff.mp h)
    have hexponent : -((digits.drop point.toNat).length : Int) =
        point - digits.length - (0 : Nat) := by
      rw [List.length_drop]
      omega
    rw [hfraction, List.take_append_drop, hexponent, ← Nat.mul_one (decimalValue digits)] at hspells
    exact ⟨0, hspells⟩

/-- The printed exponent of a number. -/
def exponentChars (exponent : Int) : List Char :=
  'e' :: (if exponent < 0 then '-' else '+') :: Nat.toDigits 10 exponent.natAbs

/-- A printed exponent is read. -/
theorem exponentPart?_printed (exponent : Int) :
    exponentPart? (exponentChars exponent) = some exponent := by
  have hall : (Nat.toDigits 10 exponent.natAbs).all Char.isDigit = true :=
    List.all_eq_true.mpr (isDigit_toDigits _)
  have hne : (Nat.toDigits 10 exponent.natAbs).isEmpty = false :=
    List.isEmpty_eq_false_iff.mpr Nat.toDigits_ne_nil
  by_cases h : exponent < 0
  · have hvalue : -(exponent.natAbs : Int) = exponent := by omega
    rw [exponentChars, if_pos h, exponentPart?]
    simp only [splitSign, hall, hne, Numeral.decimalValue_toDigits, hvalue, beq_self_eq_true,
      Bool.true_or, Bool.not_false, Bool.and_self, if_true]
  · have hvalue : (exponent.natAbs : Int) = exponent := by omega
    rw [exponentChars, if_neg h, exponentPart?]
    simp only [splitSign, hall, hne, Numeral.decimalValue_toDigits, hvalue, beq_self_eq_true,
      Bool.true_or, Bool.not_false, Bool.and_self, if_true, Bool.false_eq_true, if_false]

theorem radixOfMark?_exponentChars (exponent : Int) :
    ∀ c ∈ exponentChars exponent, radixOfMark? c = none := by
  have hsign : radixOfMark? (if exponent < 0 then '-' else '+') = none := by
    split_ifs <;> rfl
  rw [exponentChars, List.forall_mem_cons, List.forall_mem_cons]
  exact ⟨rfl, hsign, fun c hc => radixOfMark?_of_isDigit (isDigit_toDigits _ c hc)⟩

/-- Digits with an exponent spell them. -/
theorem spells_scientific (hne : digits ≠ []) (hdigits : ∀ c ∈ digits, c.isDigit = true)
    (point : Int) :
    Spells (scientific digits point) ⟨decimalValue digits, point - digits.length⟩ := by
  rcases List.exists_cons_of_ne_nil hne with ⟨c, rest, rfl⟩
  rw [List.forall_mem_cons] at hdigits
  have hwhole : ∀ d ∈ [c], d.isDigit = true := by
    rw [List.forall_mem_singleton]
    exact hdigits.1
  have htail : ∀ d ∈ (exponentChars (point - 1)).head?, d.isDigit = false ∧ d ≠ '.' := by
    intro d hd
    rw [← Option.some.inj hd]
    decide
  have hspells := Spells.parts (List.cons_ne_nil c []) hwhole hdigits.2 htail
    (exponentPart?_printed (point - 1)) (radixOfMark?_exponentChars (point - 1))
  have hchars : scientific (c :: rest) point =
      [c] ++ (pointPart rest ++ exponentChars (point - 1)) := by
    cases rest <;> rfl
  have hexponent : point - 1 - (rest.length : Int) = point - (c :: rest).length := by
    rw [List.length_cons]
    omega
  rw [hexponent] at hspells
  rw [hchars]
  exact hspells

/-- The zeros that are left out at the end are those that the point is further
    away. -/
theorem exists_significantDigits (d : Decimal) : ∃ zeros : Nat,
    Nat.toDigits 10 d.digits = (significantDigits d).1 ++ List.replicate zeros '0' ∧
      (significantDigits d).2 = (significantDigits d).1.length + zeros + d.exponent := by
  have hzeros : (Nat.toDigits 10 d.digits).rtakeWhile (· == '0') = List.replicate
      ((Nat.toDigits 10 d.digits).rtakeWhile (· == '0')).length '0' := by
    refine List.eq_replicate_of_mem fun c hc => ?_
    have hzero := List.mem_rtakeWhile_imp hc
    exact beq_iff_eq.mp hzero
  have hsplit : Nat.toDigits 10 d.digits = (significantDigits d).1 ++ List.replicate
      ((Nat.toDigits 10 d.digits).rtakeWhile (· == '0')).length '0' := by
    rw [← hzeros]
    exact List.rdropWhile_append_rtakeWhile.symm
  have hlength := congrArg List.length hsplit
  rw [List.length_append, List.length_replicate] at hlength
  refine ⟨_, hsplit, ?_⟩
  have hpoint : (significantDigits d).2 = (Nat.toDigits 10 d.digits).length + d.exponent := rfl
  rw [hpoint, hlength]
  omega

/-- The significant digits of a decimal are read as the decimal. -/
theorem ofDecimal_significantDigits (negative : Bool) (d : Decimal) :
    ofDecimal negative ⟨decimalValue (significantDigits d).1,
      (significantDigits d).2 - (significantDigits d).1.length⟩ = ofDecimal negative d := by
  rcases exists_significantDigits d with ⟨zeros, hdigits, hpoint⟩
  have hexponent :
      (significantDigits d).2 - (significantDigits d).1.length = d.exponent + zeros := by
    omega
  rw [hexponent, ← ofDecimal_mul_pow, ← Numeral.decimalValue_append_zeros, ← hdigits,
    Numeral.decimalValue_toDigits]

theorem significantDigits_ne_nil {d : Decimal} (h : d.digits ≠ 0) :
    (significantDigits d).1 ≠ [] := by
  intro hnil
  rcases exists_significantDigits d with ⟨zeros, hdigits, -⟩
  rw [hnil, List.nil_append] at hdigits
  refine h ?_
  rw [← Numeral.decimalValue_toDigits d.digits, hdigits, Numeral.decimalValue_zeros]

/-- The characters of a positive magnitude spell a decimal that is read as it. -/
theorem exists_spells_magnitudeChars {m : Magnitude} (hm : m.units ≠ 0) :
    ∃ d, Spells (magnitudeChars m) d ∧ ∀ negative, ofDecimal negative d = .finite negative m := by
  -- The shortest decimal reads back, and each layout spells it, with zeros or without.
  have hback := fun negative => ofDecimal_shortest negative .above m
  unfold magnitudeChars
  generalize Decimal.shortest .above m = shortest at hback
  rcases shortest with ⟨number, exponent⟩
  have hnumber : number ≠ 0 := by
    rintro rfl
    have hzero := (ofDecimal_zero exponent).symm.trans (hback false)
    rw [zero, finite.injEq] at hzero
    exact hm (hzero.2 ▸ rfl)
  have hne := @significantDigits_ne_nil ⟨number, exponent⟩ hnumber
  have hdigits := isDigit_significantDigits ⟨number, exponent⟩
  have hread := fun negative => ofDecimal_significantDigits negative ⟨number, exponent⟩
  simp only
  split_ifs
  · rcases spells_positional hne hdigits (significantDigits ⟨number, exponent⟩).2 with
      ⟨zeros, hspells⟩
    refine ⟨_, hspells, fun negative => ?_⟩
    rw [ofDecimal_mul_pow, Int.sub_add_cancel, hread, hback]
  · refine ⟨_, spells_scientific hne hdigits _, fun negative => ?_⟩
    rw [hread, hback]

/-- Nothing of a printed number is thrown away before it is read. -/
theorem ofText?_text_eq_literal? (x : Number) : ofText? x.text = literal? x.chars := by
  have hcommas : x.chars.filter (· != ',') = x.chars := by
    refine List.filter_eq_self.mpr fun c hc => bne_iff_ne.mpr ?_
    rintro rfl
    exact absurd (isNotation_chars x _ hc) (by decide)
  have hne : x.chars.isEmpty = false := List.isEmpty_eq_false_iff.mpr (chars_ne_nil x)
  rw [ofText?, text, String.toList_ofList, ofChars?]
  simp only [trim_chars, hcommas, hne, Bool.false_eq_true, if_false]

theorem literal?_zero : literal? ['0'] = some (zero false) := by
  have hspells := @spells_point ['0'] [] (List.cons_ne_nil _ _) (isDigit_zeros 1)
    fun c hc => absurd hc List.not_mem_nil
  have hvalue : decimalValue (['0'] ++ []) = 0 := rfl
  have hzero : ofDecimal false ⟨decimalValue (['0'] ++ []), -(([] : List Char).length : Int)⟩ =
      zero false := by
    rw [hvalue, ofDecimal_zero]
  have hfinite := congrArg isFinite hzero
  exact (literal?_signed hspells hfinite).trans (congrArg some hzero)

/-- A finite number is read as it was printed, except that no zero has a sign,
    and what else is printed is not read as a number. -/
theorem ofText?_text (x : Number) : ofText? x.text =
    if x.isFinite then some (if x.isZero then zero false else x) else none := by
  rw [ofText?_text_eq_literal?]
  cases x with
  | nan => exact literal?_cons_eq_none (by decide)
  | infinity negative =>
      cases negative with
      | true => rfl
      | false => exact literal?_cons_eq_none (by decide)
  | finite negative m =>
      have hisFinite : (finite negative m).isFinite = true := rfl
      have hisZero : (finite negative m).isZero = decide (m.units = 0) := rfl
      rw [if_pos hisFinite, hisZero]
      by_cases hm : m.units = 0
      · rw [if_pos (decide_eq_true hm), chars_finite, if_pos hm]
        exact literal?_zero
      · have hchars : (finite negative m).chars = signed negative (magnitudeChars m) := by
          rw [chars_finite, if_neg hm]
          rfl
        rcases exists_spells_magnitudeChars hm with ⟨d, hspells, hread⟩
        have hfinite := congrArg isFinite (hread negative)
        rw [if_neg (by rw [decide_eq_true_iff]; exact hm), hchars, literal?_signed hspells hfinite,
          hread]

end Number

end Worksheet
