import Mathlib.Data.List.Forall2
import Mathlib.Tactic.SplitIfs
import Worksheet.Proofs.Number.Literal

/-!
# The Language of Numbers

Which texts are numbers, and which number each of them is.

A literal is said by its parts. With a radix it is a zero, the letter of the
radix and at least one digit; the value is what reading the digits one by one
in double precision leaves. A decimal literal is a sign, digits around a point
with at least one of them on either side, and an exponent, where everything
but the digits may be missing; it stands for a decimal, and what is read is
the number that the decimal is rounded to. No decimal literal holds the letter
of a radix, so the two forms do not overlap.

What is read is the text without its commas and then without the blanks at its
ends. Blanks that were behind a comma at an end count as blanks at that end,
so trimming before the commas are taken out changes nothing.

## Main definitions

* `Number.RadixMark`, `Number.DigitOf`: The letters and digits of each radix.
* `Number.Sign`, `Number.Fraction`, `Number.Exponent`: The parts of a decimal
  literal that may be missing.
* `Number.RadixLiteral`, `Number.DecimalLiteral`: The literals and what they
  stand for.
* `Number.Literal`: The numbers that are read of them.
* `Number.cleaned`: What of a text is read.
* `Number.WithCommas`: One text is another one with commas put into it.

## Theorems

* `Number.radixLiteral?_eq_some_iff`, `Number.decimalLiteral?_eq_some_iff`: The
  readers accept exactly the literals.
* `Number.literal?_eq_some_iff`: Of all literals the finite ones are read.
* `Number.ofChars?_of_not_blank`: Only what is left of a text without its
  commas is read.
* `Number.isFinite_of_ofChars?`: Whatever is read is finite.
-/

namespace Worksheet

namespace Number

open Numeral (decimalValue)

/-- The letter of a radix, small or capital. -/
inductive RadixMark : Char → Nat → Prop where
  | hexadecimal {c : Char} (h : c = 'x' ∨ c = 'X') : RadixMark c 16
  | octal {c : Char} (h : c = 'o' ∨ c = 'O') : RadixMark c 8
  | binary {c : Char} (h : c = 'b' ∨ c = 'B') : RadixMark c 2

/-- The digits from zero to fifteen, with small and with capital letters. -/
def digitAlphabets : List (List Char) :=
  ["0123456789abcdef".toList, "0123456789ABCDEF".toList]

/-- The character is the digit of a value in a radix. -/
structure DigitOf (radix : Nat) (c : Char) (value : Nat) : Prop where
  /-- The radix has such a digit. -/
  lt : value < radix
  /-- The character stands at this place among the digits. -/
  listed : ∃ alphabet ∈ digitAlphabets, alphabet[value]? = some c

/-- The literals with a radix. -/
inductive RadixLiteral : List Char → Number → Prop where
  | intro {mark : Char} {radix : Nat} {digits : List Char} {values : List Nat}
      (hmark : RadixMark mark radix) (hne : digits ≠ [])
      (hdigits : List.Forall₂ (DigitOf radix) digits values) :
      RadixLiteral ('0' :: mark :: digits) (values.foldl (appendDigit radix) (zero false))

/-- The sign in front, where there is one; it is true for a minus. -/
inductive Sign : List Char → Bool → Prop where
  | missing : Sign [] false
  | plus : Sign ['+'] false
  | minus : Sign ['-'] true

/-- The point and the digits behind it, where there is a point. -/
inductive Fraction : List Char → List Char → Prop where
  | missing : Fraction [] []
  | point {digits : List Char} (hdigits : ∀ c ∈ digits, c.isDigit = true) :
      Fraction ('.' :: digits) digits

/-- The exponent at the end, where there is one. -/
inductive Exponent : List Char → Int → Prop where
  | missing : Exponent [] 0
  | digits {mark : Char} {sign digits : List Char} {negative : Bool}
      (hmark : mark = 'e' ∨ mark = 'E') (hsign : Sign sign negative) (hne : digits ≠ [])
      (hdigits : ∀ c ∈ digits, c.isDigit = true) :
      Exponent (mark :: (sign ++ digits))
        (if negative then -(decimalValue digits : Int) else decimalValue digits)

/-- The decimal literals, each with its sign and the decimal behind it. -/
inductive DecimalLiteral : List Char → Bool → Decimal → Prop where
  | intro {sign whole point fraction tail : List Char} {negative : Bool} {exponent : Int}
      (hsign : Sign sign negative) (hwhole : ∀ c ∈ whole, c.isDigit = true)
      (hfraction : Fraction point fraction) (hne : whole ++ fraction ≠ [])
      (hexponent : Exponent tail exponent) :
      DecimalLiteral (sign ++ (whole ++ (point ++ tail))) negative
        ⟨decimalValue (whole ++ fraction), exponent - fraction.length⟩

/-- The literals of numbers, finite or not. -/
def Literal (cs : List Char) (x : Number) : Prop :=
  RadixLiteral cs x ∨ ∃ negative d, DecimalLiteral cs negative d ∧ ofDecimal negative d = x

/-- What of a text is read: the text without its commas, and then without the
    blanks at its ends. -/
def cleaned (cs : List Char) : List Char :=
  Text.trim Text.isBlank (cs.filter (· != ','))

/-- The second text is the first one with commas put into it. -/
inductive WithCommas : List Char → List Char → Prop where
  | nil : WithCommas [] []
  | keep {cs ds : List Char} (c : Char) (h : WithCommas cs ds) : WithCommas (c :: cs) (c :: ds)
  | comma {cs ds : List Char} (h : WithCommas cs ds) : WithCommas cs (',' :: ds)

/-- The marks the reader knows are those of the grammar, in either case. -/
theorem radixOfMark?_eq_some_iff {c : Char} {radix : Nat} :
    radixOfMark? c = some radix ↔ RadixMark c radix := by
  constructor
  · intro h
    simp only [radixOfMark?, Bool.or_eq_true, beq_iff_eq] at h
    split at h
    · rename_i hmark
      rw [← Option.some.inj h]
      exact .hexadecimal hmark
    · split at h
      · rename_i hmark
        rw [← Option.some.inj h]
        exact .octal hmark
      · split at h
        · rename_i hmark
          rw [← Option.some.inj h]
          exact .binary hmark
        · exact absurd h (by simp only [reduceCtorEq, not_false_eq_true])
  · intro h
    cases h with
    | hexadecimal h => rcases h with rfl | rfl <;> rfl
    | octal h => rcases h with rfl | rfl <;> rfl
    | binary h => rcases h with rfl | rfl <;> rfl

theorem RadixMark.le_sixteen {c : Char} {radix : Nat} (h : RadixMark c radix) : radix ≤ 16 := by
  cases h <;> decide

/-- A character whose code lies in a range of the alphabet is found there by its
    code. -/
theorem listed_of_range {c : Char} {alphabet : List Char} (first value count : Nat)
    (hmem : alphabet ∈ digitAlphabets)
    (halphabet : ∀ i < count, alphabet[i + value]? = some (Char.ofNat (first + i)))
    (hfirst : first ≤ c.toNat) (hcount : c.toNat < first + count) :
    ∃ alphabet ∈ digitAlphabets, alphabet[c.toNat - first + value]? = some c := by
  refine ⟨alphabet, hmem, ?_⟩
  have hplace := halphabet (c.toNat - first) (by omega)
  rw [Nat.add_sub_cancel' hfirst, Char.ofNat_toNat] at hplace
  exact hplace

theorem le_iff_toNat_le {c d : Char} : c ≤ d ↔ c.toNat ≤ d.toNat :=
  UInt32.le_iff_toNat_le

theorem digitOfRadix?_sixteen_iff {c : Char} {value : Nat} :
    digitOfRadix? 16 c = some value ↔ ∃ alphabet ∈ digitAlphabets, alphabet[value]? = some c := by
  constructor
  · intro h
    simp only [digitOfRadix?, Option.ite_none_right_eq_some, Option.some.injEq] at h
    rcases h with ⟨hlt, rfl⟩
    revert hlt
    split_ifs with hdigit hsmall hcapital
    · rw [Text.isDigit_iff] at hdigit
      exact fun _ => listed_of_range 48 0 10 List.mem_cons_self (by decide) hdigit.1
        (Nat.lt_succ_of_le hdigit.2)
    · rw [le_iff_toNat_le, le_iff_toNat_le] at hsmall
      exact fun _ => listed_of_range 97 10 6 List.mem_cons_self (by decide) hsmall.1
        (Nat.lt_succ_of_le hsmall.2)
    · rw [le_iff_toNat_le, le_iff_toNat_le] at hcapital
      exact fun _ => listed_of_range 65 10 6 (List.mem_cons_of_mem _ List.mem_cons_self) (by decide)
        hcapital.1 (Nat.lt_succ_of_le hcapital.2)
    · exact fun hlt => absurd hlt (Nat.lt_irrefl 16)
  · rintro ⟨alphabet, hmem, hplace⟩
    -- The alphabets are finite, so the reader is tried on every place of them.
    have hread : ∀ alphabet ∈ digitAlphabets, alphabet.length = 16 ∧
        ∀ i < 16, alphabet[i]?.bind (digitOfRadix? 16) = some i := by
      decide
    have hlt : value < 16 := by
      rw [← (hread alphabet hmem).1]
      exact (List.getElem?_eq_some_iff.mp hplace).1
    have hvalue := (hread alphabet hmem).2 value hlt
    rw [hplace] at hvalue
    exact hvalue

/-- A digit of a radix is a character at a place of an alphabet below the
    radix. -/
theorem digitOfRadix?_eq_some_iff {radix : Nat} (hradix : radix ≤ 16) {c : Char} {value : Nat} :
    digitOfRadix? radix c = some value ↔ DigitOf radix c value := by
  have hsixteen : digitOfRadix? radix c = some value ↔
      value < radix ∧ digitOfRadix? 16 c = some value := by
    simp only [digitOfRadix?, Option.ite_none_right_eq_some, Option.some.injEq]
    split_ifs
    all_goals omega
  rw [hsixteen, digitOfRadix?_sixteen_iff]
  exact ⟨fun h => ⟨h.1, h.2⟩, fun h => ⟨h.1, h.2⟩⟩

theorem mapM_eq_some_iff {α β : Type} {f : α → Option β} {l : List α} {bs : List β} :
    l.mapM f = some bs ↔ List.Forall₂ (fun a b => f a = some b) l bs := by
  induction l generalizing bs with
  | nil =>
      rw [List.mapM_nil, List.forall₂_nil_left_iff, eq_comm]
      exact ⟨Option.some.inj, congrArg some⟩
  | cons a l ih =>
      simp only [List.mapM_cons, Option.bind_eq_bind, Option.bind_eq_some_iff, ih,
        List.forall₂_cons_left_iff]
      constructor
      · rintro ⟨b, hb, bs', hbs', h⟩
        exact ⟨b, bs', hb, hbs', (Option.some.inj h).symm⟩
      · rintro ⟨b, bs', hb, hbs', rfl⟩
        exact ⟨b, hb, bs', hbs', rfl⟩

/-- Digits are read one by one. -/
theorem mapM_digitOfRadix?_iff {radix : Nat} (hradix : radix ≤ 16) {digits : List Char}
    {values : List Nat} : digits.mapM (digitOfRadix? radix) = some values ↔
      List.Forall₂ (DigitOf radix) digits values := by
  rw [mapM_eq_some_iff]
  exact ⟨fun h => h.imp fun _ _ => (digitOfRadix?_eq_some_iff hradix).mp,
    fun h => h.imp fun _ _ => (digitOfRadix?_eq_some_iff hradix).mpr⟩

/-- The radix reader accepts what the grammar derives, with the same number. -/
theorem radixLiteral?_eq_some_iff {cs : List Char} {x : Number} :
    radixLiteral? cs = some x ↔ RadixLiteral cs x := by
  constructor
  · intro h
    unfold radixLiteral? at h
    split at h
    · rename_i mark digits
      simp only [Option.bind_eq_bind, Option.bind_eq_some_iff] at h
      rcases h with ⟨radix, hmark, values, hvalues, h⟩
      rw [radixOfMark?_eq_some_iff] at hmark
      rw [mapM_digitOfRadix?_iff hmark.le_sixteen] at hvalues
      simp only [Option.ite_none_left_eq_some, Option.some.injEq, List.isEmpty_iff] at h
      rcases h with ⟨hne, rfl⟩
      refine .intro hmark ?_ hvalues
      rintro rfl
      exact hne (List.forall₂_nil_left_iff.mp hvalues)
    · exact absurd h (by simp only [reduceCtorEq, not_false_eq_true])
  · rintro ⟨hmark, hne, hdigits⟩
    rename_i mark radix digits values
    have hvalues := (mapM_digitOfRadix?_iff hmark.le_sixteen).mpr hdigits
    have hnonempty : values.isEmpty = false := by
      rw [List.isEmpty_eq_false_iff]
      rintro rfl
      exact hne (List.forall₂_nil_right_iff.mp hdigits)
    simp only [radixLiteral?, radixOfMark?_eq_some_iff.mpr hmark, hvalues, hnonempty,
      Option.bind_eq_bind, Option.bind_some, Bool.false_eq_true, if_false]

/-- Whether a sign is read is settled by the first character. -/
theorem splitSign_append {sign rest : List Char} {negative : Bool} (h : Sign sign negative)
    (hrest : ∀ c ∈ rest.head?, c ≠ '-' ∧ c ≠ '+') :
    splitSign (sign ++ rest) = (negative, rest) := by
  cases h with
  | plus => rfl
  | minus => rfl
  | missing =>
      rw [List.nil_append]
      unfold splitSign
      split
      · exact absurd rfl (hrest '-' rfl).1
      · exact absurd rfl (hrest '+' rfl).2
      · rfl

/-- What is split off in front of a literal is a sign, or nothing. -/
theorem exists_sign (cs : List Char) :
    ∃ sign, Sign sign (splitSign cs).1 ∧ cs = sign ++ (splitSign cs).2 := by
  unfold splitSign
  split
  · exact ⟨['-'], .minus, rfl⟩
  · exact ⟨['+'], .plus, rfl⟩
  · exact ⟨[], .missing, rfl⟩

theorem ne_sign_of_isDigit {c : Char} (h : c.isDigit = true) : c ≠ '-' ∧ c ≠ '+' := by
  refine ⟨?_, ?_⟩
  · rintro rfl
    exact absurd h (by decide)
  · rintro rfl
    exact absurd h (by decide)

/-- The exponent reader accepts what the grammar derives. -/
theorem exponentPart?_eq_some_iff {cs : List Char} {exponent : Int} :
    exponentPart? cs = some exponent ↔ Exponent cs exponent := by
  constructor
  · intro h
    cases cs with
    | nil =>
        rw [← Option.some.inj h]
        exact .missing
    | cons mark rest =>
        rcases exists_sign rest with ⟨sign, hsign, hrest⟩
        simp only [exponentPart?, Option.ite_none_right_eq_some, Bool.and_eq_true, Bool.or_eq_true,
          beq_iff_eq, Bool.not_eq_true', List.isEmpty_eq_false_iff, List.all_eq_true,
          Option.some.injEq] at h
        rcases h with ⟨⟨⟨hmark, hne⟩, hdigits⟩, rfl⟩
        have hexponent := Exponent.digits hmark hsign hne hdigits
        rw [← hrest] at hexponent
        exact hexponent
  · intro h
    cases h with
    | missing => rfl
    | @digits mark sign digits negative hmark hsign hne hdigits =>
        have hsplit : splitSign (sign ++ digits) = (negative, digits) :=
          splitSign_append hsign fun c hc =>
            ne_sign_of_isDigit (hdigits c (List.mem_of_mem_head? hc))
        simp only [exponentPart?, hsplit, Option.ite_none_right_eq_some, Bool.and_eq_true,
          Bool.or_eq_true, beq_iff_eq, Bool.not_eq_true', List.isEmpty_eq_false_iff,
          List.all_eq_true]
        exact ⟨⟨⟨hmark, hne⟩, hdigits⟩, trivial⟩

/-- The digits behind the point, where there is one, and what follows them. -/
def splitFraction : List Char → List Char × List Char
  | '.' :: rest => (rest.takeWhile Char.isDigit, rest.dropWhile Char.isDigit)
  | cs => ([], cs)

/-- A decimal literal, cut into its parts one after the other. -/
theorem decimalLiteral?_eq (cs whole rest : List Char)
    (hwhole : (splitSign cs).2.takeWhile Char.isDigit = whole)
    (hrest : (splitSign cs).2.dropWhile Char.isDigit = rest) :
    decimalLiteral? cs = if whole ++ (splitFraction rest).1 = [] then none else
      (exponentPart? (splitFraction rest).2).map fun exponent =>
        ofDecimal (splitSign cs).1 ⟨decimalValue (whole ++ (splitFraction rest).1),
          exponent - (splitFraction rest).1.length⟩ := by
  subst hwhole hrest
  have hempty : ∀ a b : List Char, (a.isEmpty && b.isEmpty) = true ↔ a ++ b = [] := by
    intro a b
    rw [Bool.and_eq_true, List.isEmpty_iff, List.isEmpty_iff, List.append_eq_nil_iff]
  simp only [decimalLiteral?, ← hempty]
  rfl

/-- What is split off behind the whole digits is a point with digits behind it,
    or nothing. -/
theorem exists_fraction (cs : List Char) :
    ∃ point, Fraction point (splitFraction cs).1 ∧ cs = point ++ (splitFraction cs).2 := by
  unfold splitFraction
  split
  · rename_i rest
    rcases (Text.takeWhile_eq_and_dropWhile_eq_iff Char.isDigit rest).mp ⟨rfl, rfl⟩
      with ⟨hrest, hdigits, -⟩
    exact ⟨_, .point hdigits, congrArg ('.' :: ·) hrest⟩
  · exact ⟨[], .missing, rfl⟩

/-- The fraction ends where neither a digit nor a point follows. -/
theorem splitFraction_append {point fraction tail : List Char} (h : Fraction point fraction)
    (htail : ∀ c ∈ tail.head?, c.isDigit = false ∧ c ≠ '.') :
    splitFraction (point ++ tail) = (fraction, tail) := by
  cases h with
  | missing =>
      rw [List.nil_append]
      unfold splitFraction
      split
      · exact absurd rfl (htail '.' rfl).2
      · rfl
  | point hdigits =>
      rcases (Text.takeWhile_eq_and_dropWhile_eq_iff Char.isDigit (fraction ++ tail)).mpr
        ⟨rfl, hdigits, fun c hc => (htail c hc).1⟩ with ⟨htake, hdrop⟩
      exact Prod.ext htake hdrop

/-- No exponent begins with a digit or a point, so it does not run on from the
    fraction. -/
theorem Exponent.head?_ne {tail : List Char} {exponent : Int} (h : Exponent tail exponent) :
    ∀ c ∈ tail.head?, c.isDigit = false ∧ c ≠ '.' := by
  cases h with
  | missing => rintro c ⟨⟩
  | digits hmark =>
      rintro c ⟨⟩
      rcases hmark with rfl | rfl <;> decide

/-- Behind the sign comes a digit or the point. -/
theorem Fraction.head?_digits {whole point fraction : List Char} (h : Fraction point fraction)
    (hwhole : ∀ c ∈ whole, c.isDigit = true) (hne : whole ++ fraction ≠ []) (tail : List Char) :
    ∀ c ∈ (whole ++ (point ++ tail)).head?, c ≠ '-' ∧ c ≠ '+' := by
  cases whole with
  | cons d whole =>
      rintro c ⟨⟩
      exact ne_sign_of_isDigit (hwhole d List.mem_cons_self)
  | nil =>
      cases h with
      | missing => exact absurd rfl hne
      | point =>
          rintro c ⟨⟩
          decide

/-- The decimal reader accepts what the grammar derives, and rounds the decimal
    once. -/
theorem decimalLiteral?_eq_some_iff {cs : List Char} {x : Number} :
    decimalLiteral? cs = some x ↔
      ∃ negative d, DecimalLiteral cs negative d ∧ ofDecimal negative d = x := by
  constructor
  · intro h
    rcases exists_sign cs with ⟨sign, hsign, hcs⟩
    rcases (Text.takeWhile_eq_and_dropWhile_eq_iff Char.isDigit (splitSign cs).2).mp ⟨rfl, rfl⟩
      with ⟨hunsigned, hwhole, -⟩
    rcases exists_fraction ((splitSign cs).2.dropWhile Char.isDigit)
      with ⟨point, hfraction, hpoint⟩
    -- The reader cuts the text at the places where the grammar puts its parts together.
    rw [decimalLiteral?_eq cs _ _ rfl rfl] at h
    simp only [Option.ite_none_left_eq_some, Option.map_eq_some_iff, exponentPart?_eq_some_iff]
      at h
    rcases h with ⟨hne, exponent, hexponent, rfl⟩
    have hliteral := DecimalLiteral.intro hsign hwhole hfraction hne hexponent
    rw [← hpoint, ← hunsigned, ← hcs] at hliteral
    exact ⟨_, _, hliteral, rfl⟩
  · rintro ⟨_, _, hliteral, rfl⟩
    cases hliteral with
    | @intro sign whole point fraction tail negative exponent hsign hwhole hfraction hne hexponent =>
        -- Each part ends where the next one begins, so the reader cuts there.
        have htail := hexponent.head?_ne
        have hsplit := splitSign_append hsign (hfraction.head?_digits hwhole hne tail)
        have hhead : ∀ c ∈ (point ++ tail).head?, c.isDigit = false := by
          cases hfraction with
          | missing => exact fun c hc => (htail c hc).1
          | point =>
              rintro c ⟨⟩
              decide
        have hcut :=
          (Text.takeWhile_eq_and_dropWhile_eq_iff Char.isDigit _).mpr ⟨rfl, hwhole, hhead⟩
        rw [decimalLiteral?_eq _ whole (point ++ tail) (hsplit ▸ hcut.1) (hsplit ▸ hcut.2),
          splitFraction_append hfraction htail, hsplit, if_neg hne,
          exponentPart?_eq_some_iff.mpr hexponent]
        rfl

theorem radixOfMark?_of_isDigit {c : Char} (h : c.isDigit = true) : radixOfMark? c = none := by
  rw [Option.eq_none_iff_forall_ne_some]
  intro radix hmark
  -- Each of the six letters would be a digit.
  cases radixOfMark?_eq_some_iff.mp hmark with
  | hexadecimal hc => rcases hc with rfl | rfl <;> exact absurd h (by decide)
  | octal hc => rcases hc with rfl | rfl <;> exact absurd h (by decide)
  | binary hc => rcases hc with rfl | rfl <;> exact absurd h (by decide)

theorem radixLiteral?_eq_none {cs : List Char} (h : ∀ c ∈ cs, radixOfMark? c = none) :
    radixLiteral? cs = none := by
  unfold radixLiteral?
  split
  · rw [h _ (List.mem_cons_of_mem _ List.mem_cons_self)]
    rfl
  · rfl

theorem Sign.radixOfMark?_eq_none {sign : List Char} {negative : Bool} (h : Sign sign negative) :
    ∀ c ∈ sign, radixOfMark? c = none := by
  cases h with
  | missing => exact fun c hc => absurd hc List.not_mem_nil
  | plus => exact List.forall_mem_singleton.mpr rfl
  | minus => exact List.forall_mem_singleton.mpr rfl

/-- No character of a decimal literal is the letter of a radix. -/
theorem DecimalLiteral.radixOfMark?_eq_none {cs : List Char} {negative : Bool} {d : Decimal}
    (h : DecimalLiteral cs negative d) : ∀ c ∈ cs, radixOfMark? c = none := by
  rcases h with ⟨hsign, hwhole, hfraction, -, hexponent⟩
  have hdigits : ∀ ds : List Char, (∀ c ∈ ds, c.isDigit = true) →
      ∀ c ∈ ds, radixOfMark? c = none :=
    fun ds hds c hc => radixOfMark?_of_isDigit (hds c hc)
  rw [List.forall_mem_append, List.forall_mem_append, List.forall_mem_append]
  refine ⟨hsign.radixOfMark?_eq_none, hdigits _ hwhole, ?_, ?_⟩
  · cases hfraction with
    | missing => exact fun c hc => absurd hc List.not_mem_nil
    | point hfraction => exact List.forall_mem_cons.mpr ⟨rfl, hdigits _ hfraction⟩
  · cases hexponent with
    | missing => exact fun c hc => absurd hc List.not_mem_nil
    | digits hmark hsign _ hexponent =>
        rw [List.forall_mem_cons, List.forall_mem_append]
        refine ⟨?_, hsign.radixOfMark?_eq_none, hdigits _ hexponent⟩
        rcases hmark with rfl | rfl <;> rfl

/-- No decimal literal is a literal with a radix as well. -/
theorem DecimalLiteral.not_radixLiteral {cs : List Char} {negative : Bool} {d : Decimal}
    (h : DecimalLiteral cs negative d) (x : Number) : ¬ RadixLiteral cs x := by
  rw [← radixLiteral?_eq_some_iff, radixLiteral?_eq_none h.radixOfMark?_eq_none]
  simp only [reduceCtorEq, not_false_eq_true]

/-- Of all literals the finite ones are read. -/
theorem literal?_eq_some_iff {cs : List Char} {x : Number} :
    literal? cs = some x ↔ Literal cs x ∧ x.isFinite = true := by
  rw [literal?_eq, Option.filter_eq_some_iff, and_congr_left_iff]
  intro _
  cases hradix : radixLiteral? cs with
  | some y =>
      have hother : ¬ ∃ negative d, DecimalLiteral cs negative d ∧ ofDecimal negative d = x := by
        rintro ⟨negative, d, hd, -⟩
        exact hd.not_radixLiteral y (radixLiteral?_eq_some_iff.mp hradix)
      rw [Literal, or_iff_left hother, ← radixLiteral?_eq_some_iff, hradix]
      rfl
  | none =>
      have hother : ¬ RadixLiteral cs x := by
        rw [← radixLiteral?_eq_some_iff, hradix]
        simp only [reduceCtorEq, not_false_eq_true]
      rw [Literal, or_iff_right hother, ← decimalLiteral?_eq_some_iff]
      rfl

/-- Whatever blanks are taken off before the commas would be at the ends after
    them. -/
theorem cleaned_trim (cs : List Char) : cleaned (Text.trim Text.isBlank cs) = cleaned cs := by
  rcases Text.trim_eq_iff.mp (rfl : Text.trim Text.isBlank cs = _) with
    ⟨-, front, back, hcs, hfront, hback⟩
  rcases Text.trim_eq_iff.mp (rfl : cleaned (Text.trim Text.isBlank cs) = _) with
    ⟨htrim, front', back', hmiddle, hfront', hback'⟩
  have hfilter : ∀ ds : List Char, (∀ c ∈ ds, Text.isBlank c = true) →
      ∀ c ∈ ds.filter (· != ','), Text.isBlank c = true :=
    fun ds hds c hc => hds c (List.mem_of_mem_filter hc)
  -- Without the commas the blanks at the ends are still blanks at the ends.
  refine (Text.trim_eq_iff.mpr ⟨htrim, front.filter (· != ',') ++ front',
    back' ++ back.filter (· != ','), ?_, ?_, ?_⟩).symm
  · calc cs.filter (· != ',')
        = (front ++ (Text.trim Text.isBlank cs ++ back)).filter (· != ',') := by rw [← hcs]
      _ = front.filter (· != ',') ++
          ((Text.trim Text.isBlank cs).filter (· != ',') ++ back.filter (· != ',')) := by
        rw [List.filter_append, List.filter_append]
      _ = _ := by
        rw [hmiddle]
        simp only [List.append_assoc]
  · exact List.forall_mem_append.mpr ⟨hfilter front hfront, hfront'⟩
  · exact List.forall_mem_append.mpr ⟨hback', hfilter back hback⟩

theorem ofChars?_of_blank {cs : List Char} (h : ∀ c ∈ cs, Text.isBlank c = true) :
    ofChars? cs = none := by
  rw [ofChars?, Text.trim_eq_nil_iff.mpr h]
  rfl

/-- A text that is more than blanks is read without its commas, and as zero if
    nothing else is left. -/
theorem ofChars?_of_not_blank {cs : List Char} (h : ¬ ∀ c ∈ cs, Text.isBlank c = true) :
    ofChars? cs = if cleaned cs = [] then some (zero false) else literal? (cleaned cs) := by
  have hclean : Text.trim Text.isBlank ((Text.trim Text.isBlank cs).filter (· != ',')) =
      cleaned cs := cleaned_trim cs
  rw [← Text.trim_eq_nil_iff] at h
  simp only [ofChars?, hclean, List.isEmpty_iff, h, if_false]

/-- What is read is finite. -/
theorem isFinite_of_ofChars? {cs : List Char} {x : Number} (h : ofChars? cs = some x) :
    x.isFinite = true := by
  by_cases hblank : ∀ c ∈ cs, Text.isBlank c = true
  · rw [ofChars?_of_blank hblank] at h
    exact absurd h (by simp only [reduceCtorEq, not_false_eq_true])
  · rw [ofChars?_of_not_blank hblank] at h
    split at h
    · rw [← Option.some.inj h]
      rfl
    · exact (literal?_eq_some_iff.mp h).2

theorem WithCommas.filter_eq {cs ds : List Char} (h : WithCommas cs ds) :
    ds.filter (· != ',') = cs.filter (· != ',') := by
  induction h with
  | nil => rfl
  | keep c _ ih => rw [List.filter_cons, List.filter_cons, ih]
  | comma _ ih => exact ih

theorem WithCommas.subset {cs ds : List Char} (h : WithCommas cs ds) : cs ⊆ ds := by
  induction h with
  | nil => exact List.Subset.refl []
  | keep c _ ih => exact List.cons_subset_cons c ih
  | comma _ ih => exact List.subset_cons_of_subset ',' ih

end Number

end Worksheet
