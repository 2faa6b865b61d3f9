import Worksheet.Proofs.Number.Digits
import Worksheet.Proofs.Number.Language
import Worksheet.Proofs.Number.Whole

/-!
# Rounding after Every Digit

What reading a literal with a radix digit by digit comes to.

A step multiplies by the radix, which only puts zeros at the end, adds a digit
and rounds. Up to `2 ^ 53` nothing is rounded. The first step that passes it
rounds the digits so far, and from there on the result ends in more zeros than
a digit could reach, so every later digit is lost.

Losing them is right in all cases but one. A number is rounded by its first
53 binary digits, and what follows decides only which of the two numbers
around it is nearer. Further digits bring nothing new to that, unless the
digits so far lie exactly in the middle. Then any digit behind them that is
not zero makes the number above the nearer one, but the middle has been
rounded already, and to the even side. When that is below, reading ends one
step below the nearest number. Such a literal `LosesTie`, and no other is
read wrongly.

## Main definitions

* `Rounding.TieDown`: Numbers in the middle that are rounded down.
* `Number.accumulated`: Rounding after every digit, in natural numbers.
* `Number.LosesTie`: The literals that are read one step too low.

## Theorems

* `Rounding.roundUnits_append`: Digits behind a number are of no account,
  unless it is a tie that is rounded down.
* `Number.accumulated_of_le`, `Number.accumulated_of_ge`: No digit is lost up to
  `2 ^ 53`, and every digit from there on.
* `Number.ofText?_of_radix`: Which number is read, and which is the nearest.
-/

namespace Worksheet

namespace Rounding

/-- The number has 54 binary digits in front of zeros, and the last two of them
    are a zero and a one. It lies in the middle between two short numbers, and
    the one below is even. -/
def TieDown (n : Nat) : Prop :=
  ∃ m t, Nat.pow 2 51 ≤ m ∧ m < Nat.pow 2 52 ∧ n = (4 * m + 1) * Nat.pow 2 t

theorem isNearest_roundUnits_one (n : Nat) : IsNearest (n : ℚ) (roundUnits n 1) := by
  have hnearest := isNearest_roundUnits n Nat.one_pos
  rw [Nat.cast_one, div_one] at hnearest
  exact hnearest

/-- A rest that is less than one unit of the divisor is of no account, unless
    the quotient is in the middle. -/
theorem nearestQuotient_append {n half scale rest : Nat} (hrest : rest < scale) :
    nearestQuotient (n * scale + rest) (2 * half * scale) =
      if n % (2 * half) = half ∧ n / (2 * half) % 2 = 0 ∧ rest ≠ 0 then n / (2 * half) + 1
      else nearestQuotient n (2 * half) := by
  have hquot : (n * scale + rest) / scale = n := by
    rw [Nat.mul_comm, Nat.mul_add_div (Nat.zero_lt_of_lt hrest), Nat.div_eq_of_lt hrest,
      Nat.add_zero]
  have hrem : (n * scale + rest) % scale = rest := by
    rw [Nat.mul_comm, Nat.mul_add_mod, Nat.mod_eq_of_lt hrest]
  have hdiv : (n * scale + rest) / (2 * half * scale) = n / (2 * half) := by
    rw [Nat.mul_comm (2 * half), ← Nat.div_div_eq_div_mul, hquot]
  have hmod : (n * scale + rest) % (2 * half * scale) = rest + scale * (n % (2 * half)) := by
    rw [Nat.mul_comm (2 * half), Nat.mod_mul, hquot, hrem]
  have hden : 2 * half * scale = 2 * (scale * half) := by
    rw [Nat.mul_assoc, Nat.mul_comm half]
  simp only [nearestQuotient, hdiv, hmod]
  rw [hden]
  clear hdiv hmod hquot hrem hden
  generalize n / (2 * half) = q
  generalize n % (2 * half) = e
  -- Both remainders lie on the same side of the middle, except in the middle itself.
  rcases Nat.lt_trichotomy e half with hlt | rfl | hgt
  · have hbelow : scale * e + scale ≤ scale * half := by
      rw [← Nat.mul_succ]
      exact Nat.mul_le_mul_left scale hlt
    rw [if_pos (by omega), if_neg (by omega), if_pos (by omega)]
  · by_cases hzero : rest = 0
    · subst hzero
      rw [if_neg (by omega), if_neg (by omega), if_neg (by omega), if_neg (by omega),
        if_neg (by omega)]
    · rw [if_neg (by omega), if_pos (by omega)]
      by_cases heven : q % 2 = 0
      · rw [if_pos ⟨rfl, heven, hzero⟩]
      · rw [if_neg fun h => heven h.2.1, if_neg (Nat.lt_irrefl _), if_neg (Nat.lt_irrefl _),
          Nat.mod_two_ne_zero.mp heven]
  · have habove : scale * half + scale ≤ scale * e := by
      rw [← Nat.mul_succ]
      exact Nat.mul_le_mul_left scale hgt
    rw [if_neg (by omega), if_pos (by omega), if_neg (by omega), if_neg (by omega),
      if_pos (by omega)]

/-- Digits behind a number of more than 53 binary digits only decide between
    the two numbers around it when it lies in the middle of them. -/
theorem roundUnits_append_eq {n j rest : Nat} (hn : Nat.pow 2 53 ≤ n) (hrest : rest < Nat.pow 2 j) :
    roundUnits (n * Nat.pow 2 j + rest) 1 =
      (if n % Nat.pow 2 (shift n 1) = Nat.pow 2 (shift n 1 - 1) ∧
          n / Nat.pow 2 (shift n 1) % 2 = 0 ∧ rest ≠ 0 then
        (n / Nat.pow 2 (shift n 1) + 1) * Nat.pow 2 (shift n 1)
      else roundUnits n 1) * Nat.pow 2 j := by
  have hne : n ≠ 0 := Nat.ne_of_gt (Nat.lt_of_lt_of_le (two_pow_pos 53) hn)
  have hlog : 53 ≤ n.log2 := (Nat.le_log2 hne).mpr hn
  -- The digits put behind the number are all beyond its significand.
  have hshift : shift (n * Nat.pow 2 j + rest) 1 = shift n 1 + j := by
    rw [shift, shift, Nat.div_one, Nat.div_one, log2_append hne hrest]
    omega
  have hone : 1 ≤ shift n 1 := by
    rw [shift, Nat.div_one]
    omega
  have hhalf : Nat.pow 2 (shift n 1) = 2 * Nat.pow 2 (shift n 1 - 1) := by
    have hsplit := two_pow_add 1 (shift n 1 - 1)
    rw [Nat.add_sub_cancel' hone] at hsplit
    exact hsplit
  have hround : roundUnits n 1 =
      nearestQuotient n (Nat.pow 2 (shift n 1)) * Nat.pow 2 (shift n 1) := by
    rw [roundUnits, Nat.one_mul]
  rw [hround, roundUnits, hshift, Nat.one_mul, two_pow_add, ← Nat.mul_assoc]
  congr 1
  rw [hhalf, nearestQuotient_append hrest]
  split_ifs <;> rfl

/-- A tie loses one binary digit more than it has zeros at its end. -/
theorem shift_tieDown {m : Nat} (hlow : Nat.pow 2 51 ≤ m) (hhigh : m < Nat.pow 2 52) (t : Nat) :
    shift ((4 * m + 1) * Nat.pow 2 t) 1 = t + 1 := by
  have h51 : Nat.pow 2 51 = 2251799813685248 := rfl
  have h52 : Nat.pow 2 52 = 4503599627370496 := rfl
  have hlog : (4 * m + 1).log2 = 53 := (Nat.log2_eq_iff (by omega)).mpr ⟨by omega, by omega⟩
  rw [shift, Nat.div_one, log2_mul_two_pow (by omega), hlog]
  omega

/-- What a tie loses is exactly half a unit of the last digit it keeps, and that
    digit is even. -/
theorem div_mod_tieDown (m t : Nat) : (4 * m + 1) * Nat.pow 2 t / Nat.pow 2 (t + 1) = 2 * m ∧
    (4 * m + 1) * Nat.pow 2 t % Nat.pow 2 (t + 1) = Nat.pow 2 t := by
  have hsucc : Nat.pow 2 (t + 1) = 2 * Nat.pow 2 t := Nat.mul_comm _ _
  have hquot : (4 * m + 1) / 2 = 2 * m := by omega
  have hrem : (4 * m + 1) % 2 = 1 := by omega
  rw [hsucc, Nat.mul_div_mul_right _ _ (two_pow_pos t), Nat.mul_mod_mul_right, hquot, hrem,
    Nat.one_mul]
  exact ⟨rfl, rfl⟩

theorem TieDown.le {n : Nat} (h : TieDown n) : Nat.pow 2 53 ≤ n := by
  have h51 : Nat.pow 2 51 = 2251799813685248 := rfl
  have h53 : Nat.pow 2 53 = 9007199254740992 := rfl
  rcases h with ⟨m, t, hlow, -, rfl⟩
  calc Nat.pow 2 53 ≤ 4 * m + 1 := by omega
    _ ≤ (4 * m + 1) * Nat.pow 2 t := Nat.le_mul_of_pos_right _ (two_pow_pos t)

/-- Rounding looks at the remainder for the middle and at the quotient for the
    even side. -/
theorem tieDown_of_mod {n : Nat} (hn : Nat.pow 2 53 ≤ n)
    (hmiddle : n % Nat.pow 2 (shift n 1) = Nat.pow 2 (shift n 1 - 1))
    (heven : n / Nat.pow 2 (shift n 1) % 2 = 0) : TieDown n := by
  have hne : n ≠ 0 := Nat.ne_of_gt (Nat.lt_of_lt_of_le (two_pow_pos 53) hn)
  have hlog : 53 ≤ n.log2 := (Nat.le_log2 hne).mpr hn
  have hbits : n.log2 = 52 + shift n 1 := by
    rw [shift, Nat.div_one]
    omega
  have hlow : Nat.pow 2 n.log2 ≤ n := Nat.log2_self_le hne
  have hhigh : n < Nat.pow 2 (n.log2 + 1) := Nat.lt_log2_self
  rw [hbits, two_pow_add, ← Nat.le_div_iff_mul_le (two_pow_pos _)] at hlow
  rw [hbits, Nat.add_right_comm, two_pow_add, ← Nat.div_lt_iff_lt_mul (two_pow_pos _)] at hhigh
  have hsplit := two_pow_add (shift n 1 - 1) 1
  rw [Nat.sub_add_cancel (by omega)] at hsplit
  have hdiv := Nat.div_add_mod n (Nat.pow 2 (shift n 1))
  rw [hmiddle, hsplit] at hdiv
  rw [hsplit] at hlow hhigh heven
  have htwo : Nat.pow 2 1 = 2 := rfl
  have h51 : Nat.pow 2 51 = 2251799813685248 := rfl
  have h52 : Nat.pow 2 52 = 4503599627370496 := rfl
  have h53 : Nat.pow 2 (52 + 1) = 9007199254740992 := rfl
  rw [htwo] at hdiv hlow hhigh heven
  -- The quotient is the significand; it is even, so its half gives the tie.
  generalize n / (Nat.pow 2 (shift n 1 - 1) * 2) = q at hdiv heven hlow hhigh
  have hq : 4 * (q / 2) + 1 = 2 * q + 1 := by omega
  refine ⟨q / 2, shift n 1 - 1, by omega, by omega, ?_⟩
  rw [hq, Nat.add_mul, Nat.one_mul, Nat.mul_comm (2 * q), ← Nat.mul_assoc]
  exact hdiv.symm

/-- A tie is rounded to the side below. -/
theorem roundUnits_tieDown {m : Nat} (hlow : Nat.pow 2 51 ≤ m) (hhigh : m < Nat.pow 2 52)
    (t : Nat) : roundUnits ((4 * m + 1) * Nat.pow 2 t) 1 = 4 * m * Nat.pow 2 t := by
  rcases div_mod_tieDown m t with ⟨hdiv, hmod⟩
  have hsucc : Nat.pow 2 (t + 1) = 2 * Nat.pow 2 t := Nat.mul_comm _ _
  simp only [roundUnits, shift_tieDown hlow hhigh, nearestQuotient, Nat.one_mul, hdiv, hmod]
  rw [hsucc, if_neg (Nat.lt_irrefl _), if_neg (Nat.lt_irrefl _), Nat.mul_mod_right, Nat.add_zero,
    ← Nat.mul_assoc, Nat.mul_right_comm 2 m 2]

/-- Digits behind a number of more than 53 binary digits are of no account,
    unless it is a tie that is rounded down. -/
theorem roundUnits_append {n j rest : Nat} (hn : Nat.pow 2 53 ≤ n) (hrest : rest < Nat.pow 2 j)
    (h : TieDown n → rest = 0) :
    roundUnits (n * Nat.pow 2 j + rest) 1 = roundUnits n 1 * Nat.pow 2 j := by
  rw [roundUnits_append_eq hn hrest, if_neg]
  rintro ⟨hmiddle, heven, hne⟩
  exact hne (h (tieDown_of_mod hn hmiddle heven))

/-- Behind such a tie they make the number above the nearer one. -/
theorem roundUnits_tieDown_append {m t j rest : Nat} (hlow : Nat.pow 2 51 ≤ m)
    (hhigh : m < Nat.pow 2 52) (hrest : rest < Nat.pow 2 j) (hne : rest ≠ 0) :
    roundUnits ((4 * m + 1) * Nat.pow 2 t * Nat.pow 2 j + rest) 1 =
      (4 * m + 2) * Nat.pow 2 t * Nat.pow 2 j := by
  rcases div_mod_tieDown m t with ⟨hdiv, hmod⟩
  have hsucc : Nat.pow 2 (t + 1) = 2 * Nat.pow 2 t := Nat.mul_comm _ _
  rw [roundUnits_append_eq (TieDown.le ⟨m, t, hlow, hhigh, rfl⟩) hrest,
    shift_tieDown hlow hhigh, hdiv, hmod, if_pos ⟨rfl, Nat.mul_mod_right 2 m, hne⟩, hsucc,
    ← Nat.mul_assoc, Nat.add_mul, Nat.mul_right_comm 2 m 2]

/-- A number of 53 binary digits that is even has the next short number two
    units above it, counted in units half as large. -/
theorem Short.next_le {m j n : Nat} (hlow : Nat.pow 2 51 ≤ m) (hn : Short n)
    (hlt : 4 * m * Nat.pow 2 j < n) : (4 * m + 2) * Nat.pow 2 j ≤ n := by
  have h51 : Nat.pow 2 51 = 2251799813685248 := rfl
  have h53 : Nat.pow 2 53 = 9007199254740992 := rfl
  rcases hn with ⟨a, s, ha, rfl⟩
  by_cases hs : s ≤ j
  · have hle : a * Nat.pow 2 s ≤ 4 * m * Nat.pow 2 j :=
      Nat.mul_le_mul (by omega) (two_pow_le hs)
    exact absurd hlt (Nat.not_lt.mpr hle)
  · -- The number is a multiple of two of these units.
    have hsplit : Nat.pow 2 s = Nat.pow 2 (s - (j + 1)) * 2 * Nat.pow 2 j := by
      have hadd := two_pow_add (s - (j + 1)) (j + 1)
      rw [Nat.sub_add_cancel (by omega), two_pow_add j 1, Nat.mul_comm (Nat.pow 2 j),
        ← Nat.mul_assoc] at hadd
      exact hadd
    rw [hsplit, ← Nat.mul_assoc, ← Nat.mul_assoc] at hlt ⊢
    have hunits := Nat.lt_of_mul_lt_mul_right hlt
    exact Nat.mul_le_mul_right _ (by omega)

/-- Between an even number of 53 binary digits and the one after it there is no
    power of two. -/
theorem two_pow_le_of_le {m j k : Nat} (hlow : Nat.pow 2 51 ≤ m) (hhigh : m < Nat.pow 2 52)
    (h : Nat.pow 2 k ≤ (4 * m + 2) * Nat.pow 2 j) : Nat.pow 2 k ≤ 4 * m * Nat.pow 2 j := by
  have h51 : Nat.pow 2 51 = 2251799813685248 := rfl
  have h52 : Nat.pow 2 52 = 4503599627370496 := rfl
  have h53 : Nat.pow 2 53 = 9007199254740992 := rfl
  have h54 : Nat.pow 2 54 = 18014398509481984 := rfl
  have hk : k < 54 + j := by
    by_contra hle
    have hlarge := Nat.le_trans (two_pow_le (Nat.le_of_not_lt hle)) h
    rw [two_pow_add] at hlarge
    have hunits := Nat.le_of_mul_le_mul_right hlarge (two_pow_pos j)
    omega
  calc Nat.pow 2 k ≤ Nat.pow 2 (53 + j) := two_pow_le (by omega)
    _ = Nat.pow 2 53 * Nat.pow 2 j := two_pow_add 53 j
    _ ≤ 4 * m * Nat.pow 2 j := Nat.mul_le_mul_right _ (by omega)

theorem short_four_mul {m : Nat} (h : m < Nat.pow 2 52) (j : Nat) :
    Short (4 * m * Nat.pow 2 j) := by
  have h52 : Nat.pow 2 52 = 4503599627370496 := rfl
  have h53 : Nat.pow 2 53 = 9007199254740992 := rfl
  have hsplit : 4 * m * Nat.pow 2 j = 2 * m * Nat.pow 2 (1 + j) := by
    rw [two_pow_add, ← Nat.mul_assoc]
    exact congrArg (· * Nat.pow 2 j) (by omega : 4 * m = 2 * m * 2)
  rw [hsplit]
  exact short_mul_two_pow (by omega) _

end Rounding

namespace Number

open Numeral (value value_append value_concat)
open Rounding (Short TieDown IsNearest roundUnits)

/-- The natural number that is left when it is rounded after every digit that
    is put behind it. -/
def accumulated (radix : Nat) (values : List Nat) (n : Nat) : Nat :=
  values.foldl (fun r d => roundUnits (r * radix + d) 1) n

/-- The digits up to the one that passes `2 ^ 53` are a tie that is rounded
    down, and the digits behind them are not all zero. What is left of them all
    is the tie, rounded, with zeros in place of the digits behind it. -/
inductive LosesTie (radix : Nat) : List Nat → Nat → Prop where
  | intro {front back : List Nat} {d : Nat} (hfront : value radix front < Nat.pow 2 53)
      (htie : TieDown (value radix (front ++ [d]))) (hback : value radix back ≠ 0) :
      LosesTie radix (front ++ d :: back)
        (roundUnits (value radix (front ++ [d])) 1 * Nat.pow radix back.length)

/-- The fold over more digits goes on from what it has. -/
theorem accumulated_append (radix : Nat) (front back : List Nat) (n : Nat) :
    accumulated radix (front ++ back) n =
      accumulated radix back (accumulated radix front n) :=
  List.foldl_append

/-- No digit is lost up to `2 ^ 53`. -/
theorem accumulated_of_le {radix : Nat} (hradix : 0 < radix) {values : List Nat}
    (h : value radix values ≤ Nat.pow 2 53) : accumulated radix values 0 = value radix values := by
  induction values using List.reverseRecOn with
  | nil => rfl
  | append_singleton values d ih =>
      rw [value_concat] at h ⊢
      have hle : value radix values ≤ Nat.pow 2 53 :=
        Nat.le_trans (Nat.le_mul_of_pos_right _ hradix) (Nat.le_trans (Nat.le_add_right _ d) h)
      rw [accumulated_append, ih hle]
      exact Rounding.roundUnits_of_short (Rounding.short_of_le h)

/-- From there on every digit is lost. -/
theorem accumulated_of_ge {b : Nat} {values : List Nat} (hvalues : ∀ d ∈ values, d < Nat.pow 2 b) :
    ∀ {n : Nat}, Short n → Nat.pow 2 53 ≤ n → accumulated (Nat.pow 2 b) values n =
      n * Nat.pow (Nat.pow 2 b) values.length := by
  induction values with
  | nil => exact fun _ _ => (Nat.mul_one _).symm
  | cons d values ih =>
      intro n hshort hn
      rw [List.forall_mem_cons] at hvalues
      have hself := Rounding.roundUnits_of_short hshort
      -- A tie is not short, since it is not its own rounding.
      have htie : ¬ TieDown n := by
        rintro ⟨m, t, hlow, hhigh, rfl⟩
        rw [Rounding.roundUnits_tieDown hlow hhigh] at hself
        have hlt : 4 * m * Nat.pow 2 t < (4 * m + 1) * Nat.pow 2 t :=
          Nat.mul_lt_mul_of_pos_right (Nat.lt_succ_self _) (Rounding.two_pow_pos t)
        omega
      have hstep : roundUnits (n * Nat.pow 2 b + d) 1 = n * Nat.pow 2 b := by
        rw [Rounding.roundUnits_append hn hvalues.1 fun h => absurd h htie, hself]
      have hpow : Nat.pow (Nat.pow 2 b) (values.length + 1) =
          Nat.pow (Nat.pow 2 b) values.length * Nat.pow 2 b := rfl
      have hle : Nat.pow 2 53 ≤ n * Nat.pow 2 b :=
        Nat.le_trans hn (Nat.le_mul_of_pos_right n (Rounding.two_pow_pos b))
      calc accumulated (Nat.pow 2 b) (d :: values) n
          = accumulated (Nat.pow 2 b) values (n * Nat.pow 2 b) :=
            congrArg (accumulated (Nat.pow 2 b) values) hstep
        _ = n * Nat.pow 2 b * Nat.pow (Nat.pow 2 b) values.length :=
            ih hvalues.2 (hshort.mul_two_pow b) hle
        _ = n * Nat.pow (Nat.pow 2 b) (values.length + 1) := by
            rw [hpow, Nat.mul_assoc, Nat.mul_comm (Nat.pow 2 b)]

/-- A number of more than 53 binary digits passes `2 ^ 53` at one of its digits. -/
theorem exists_passing (radix : Nat) {values : List Nat} (h : Nat.pow 2 53 ≤ value radix values) :
    ∃ front d back, values = front ++ d :: back ∧ value radix front < Nat.pow 2 53 ∧
      Nat.pow 2 53 ≤ value radix (front ++ [d]) := by
  induction values using List.reverseRecOn with
  | nil => exact absurd (Nat.lt_of_lt_of_le (Rounding.two_pow_pos 53) h) (Nat.lt_irrefl 0)
  | append_singleton values d ih =>
      by_cases hlt : value radix values < Nat.pow 2 53
      · exact ⟨values, d, [], rfl, hlt, h⟩
      · rcases ih (Nat.le_of_not_lt hlt) with ⟨front, d', back, rfl, hfront, hpass⟩
        exact ⟨front, d', back ++ [d], by rw [List.append_assoc]; rfl, hfront, hpass⟩

theorem value_lt_pow {radix : Nat} {values : List Nat} (h : ∀ d ∈ values, d < radix) :
    value radix values < Nat.pow radix values.length := by
  induction values using List.reverseRecOn with
  | nil => exact Nat.one_pos
  | append_singleton values d ih =>
      rw [List.forall_mem_append, List.forall_mem_singleton] at h
      have hpow : Nat.pow radix (values.length + 1) = Nat.pow radix values.length * radix := rfl
      have hle := Nat.mul_le_mul_right radix (ih h.1)
      rw [Nat.succ_mul] at hle
      rw [value_concat, List.length_append, List.length_singleton, hpow]
      omega

/-- The fold is exact up to the digit that passes 2⁵³, rounds there, and scales
    what it has from then on. -/
theorem accumulated_passing {b d : Nat} {front back : List Nat}
    (hback : ∀ e ∈ back, e < Nat.pow 2 b) (hfront : value (Nat.pow 2 b) front < Nat.pow 2 53)
    (hpass : Nat.pow 2 53 ≤ value (Nat.pow 2 b) (front ++ [d])) :
    accumulated (Nat.pow 2 b) (front ++ d :: back) 0 =
      roundUnits (value (Nat.pow 2 b) (front ++ [d])) 1 *
        Nat.pow (Nat.pow 2 b) back.length := by
  have hexact := accumulated_of_le (Rounding.two_pow_pos b) (Nat.le_of_lt hfront)
  have hge := Rounding.pow_le_roundUnits (k := 53) Nat.one_pos
    (Nat.le_trans (Nat.le_of_eq (Nat.mul_one _)) hpass)
  rw [value_concat] at hge ⊢
  rw [accumulated_append, hexact]
  exact accumulated_of_ge hback (Rounding.short_roundUnits Nat.one_pos) hge

/-- The exact value is that of the digits up to a place, scaled, and of the
    digits behind it. -/
theorem value_passing (b d : Nat) (front back : List Nat) :
    value (Nat.pow 2 b) (front ++ d :: back) = value (Nat.pow 2 b) (front ++ [d]) *
      Nat.pow (Nat.pow 2 b) back.length + value (Nat.pow 2 b) back := by
  rw [← value_append, List.append_assoc, List.singleton_append]

/-- Digits read one by one lose nothing, unless they lose a tie. -/
theorem accumulated_eq_roundUnits {b : Nat} {values : List Nat}
    (hvalues : ∀ d ∈ values, d < Nat.pow 2 b)
    (h : ∀ below, ¬ LosesTie (Nat.pow 2 b) values below) :
    accumulated (Nat.pow 2 b) values 0 = roundUnits (value (Nat.pow 2 b) values) 1 := by
  by_cases hlt : value (Nat.pow 2 b) values < Nat.pow 2 53
  · rw [accumulated_of_le (Rounding.two_pow_pos b) (Nat.le_of_lt hlt),
      Rounding.roundUnits_of_short (Rounding.short_of_le (Nat.le_of_lt hlt))]
  · -- At the digit that passes 2⁵³ the fold rounds, and this is where a tie would be lost.
    rcases exists_passing _ (Nat.le_of_not_lt hlt) with ⟨front, d, back, rfl, hfront, hpass⟩
    rw [List.forall_mem_append, List.forall_mem_cons] at hvalues
    have hrest := value_lt_pow hvalues.2.2
    have htie : TieDown (value (Nat.pow 2 b) (front ++ [d])) →
        value (Nat.pow 2 b) back = 0 := by
      intro htie
      by_contra hne
      exact h _ (.intro hfront htie hne)
    have hpow : Nat.pow (Nat.pow 2 b) back.length = Nat.pow 2 (b * back.length) :=
      (Nat.pow_mul 2 b back.length).symm
    rw [hpow] at hrest
    rw [accumulated_passing hvalues.2.2 hfront hpass, value_passing b d front back, hpow,
      Rounding.roundUnits_append hpass hrest htie]

/-- Only numbers of more than 53 binary digits lose a tie. -/
theorem LosesTie.le {b below : Nat} {values : List Nat}
    (h : LosesTie (Nat.pow 2 b) values below) : Nat.pow 2 53 ≤ value (Nat.pow 2 b) values := by
  cases h with
  | @intro front back d hfront htie hback =>
      have hpos : 0 < Nat.pow (Nat.pow 2 b) back.length := Nat.pow_pos (Rounding.two_pow_pos b)
      rw [value_passing]
      exact Nat.le_add_right_of_le (Nat.le_trans htie.le (Nat.le_mul_of_pos_right _ hpos))

/-- A literal that loses a tie ends two units below the nearest number. -/
theorem LosesTie.exists_units {b below : Nat} {values : List Nat}
    (h : LosesTie (Nat.pow 2 b) values below) (hvalues : ∀ d ∈ values, d < Nat.pow 2 b) :
    ∃ m j, Nat.pow 2 51 ≤ m ∧ m < Nat.pow 2 52 ∧ below = 4 * m * Nat.pow 2 j ∧
      accumulated (Nat.pow 2 b) values 0 = below ∧
      roundUnits (value (Nat.pow 2 b) values) 1 = (4 * m + 2) * Nat.pow 2 j := by
  cases h with
  | @intro front back d hfront htie hback =>
      rw [List.forall_mem_append, List.forall_mem_cons] at hvalues
      have hrest := value_lt_pow hvalues.2.2
      have hpow : Nat.pow (Nat.pow 2 b) back.length = Nat.pow 2 (b * back.length) :=
        (Nat.pow_mul 2 b back.length).symm
      have hread := accumulated_passing hvalues.2.2 hfront htie.le
      rcases htie with ⟨m, t, hlow, hhigh, hvalue⟩
      rw [hpow] at hrest
      have hnearest := Rounding.roundUnits_tieDown_append (t := t) hlow hhigh hrest hback
      refine ⟨m, t + b * back.length, hlow, hhigh, ?_, hread, ?_⟩
      · rw [hvalue, Rounding.roundUnits_tieDown hlow hhigh, hpow, Rounding.two_pow_add,
          Nat.mul_assoc]
      · rw [value_passing, hvalue, hpow, hnearest, Rounding.two_pow_add, Nat.mul_assoc]

/-- What is left of a literal that loses a tie is the short number before the
    nearest one, and no power of two lies between them. -/
theorem LosesTie.before_nearest {b below : Nat} {values : List Nat}
    (h : LosesTie (Nat.pow 2 b) values below) (hvalues : ∀ d ∈ values, d < Nat.pow 2 b) :
    accumulated (Nat.pow 2 b) values 0 = below ∧ Short below ∧
      below < roundUnits (value (Nat.pow 2 b) values) 1 ∧
      (∀ n, Short n → below < n → roundUnits (value (Nat.pow 2 b) values) 1 ≤ n) ∧
      (wholeLimit ≤ roundUnits (value (Nat.pow 2 b) values) 1 → wholeLimit ≤ below) := by
  rcases h.exists_units hvalues with ⟨m, j, hlow, hhigh, rfl, hleft, hnearest⟩
  rw [hnearest]
  unfold wholeLimit
  exact ⟨hleft, Rounding.short_four_mul hhigh j,
    Nat.mul_lt_mul_of_pos_right (by omega) (Rounding.two_pow_pos j),
    fun n hn hlt => hn.next_le hlow hlt, Rounding.two_pow_le_of_le hlow hhigh⟩

theorem RadixMark.exists_pow {c : Char} {radix : Nat} (h : RadixMark c radix) :
    ∃ b ≤ 4, radix = Nat.pow 2 b := by
  cases h with
  | hexadecimal => exact ⟨4, Nat.le_refl 4, rfl⟩
  | octal => exact ⟨3, by decide, rfl⟩
  | binary => exact ⟨1, by decide, rfl⟩

theorem lt_wholeLimit {n : Nat} (h : n ≤ Nat.pow 2 53) : n < wholeLimit :=
  Nat.lt_of_le_of_lt h (two_pow_lt_wholeLimit (by decide))

/-- A step puts a digit behind the number and rounds. -/
theorem appendDigit_ofNat {b n d : Nat} (hb : b ≤ 4) (hn : Short n) (hd : d < Nat.pow 2 b) :
    appendDigit (Nat.pow 2 b) (ofNat n) d = ofNat (roundUnits (n * Nat.pow 2 b + d) 1) := by
  have hle : Nat.pow 2 b ≤ Nat.pow 2 53 := Rounding.two_pow_le (by omega)
  have hd' : d ≤ Nat.pow 2 53 := Nat.le_trans (Nat.le_of_lt hd) hle
  rw [appendDigit, ofNat_mul hn (Rounding.short_of_le hle) (lt_wholeLimit hle)
      (Rounding.two_pow_pos b).ne',
    ofNat_add (hn.mul_two_pow b) (Rounding.short_of_le hd') (lt_wholeLimit hd'), ofNat_roundUnits]

/-- As long as the number so far is a rounded one, the fold on numbers is the
    fold on naturals. -/
theorem foldl_appendDigit {b : Nat} (hb : b ≤ 4) {values : List Nat}
    (hvalues : ∀ d ∈ values, d < Nat.pow 2 b) : ∀ {n : Nat}, Short n →
      values.foldl (appendDigit (Nat.pow 2 b)) (ofNat n) =
        ofNat (accumulated (Nat.pow 2 b) values n) := by
  induction values with
  | nil =>
      intro n _
      have hnil : accumulated (Nat.pow 2 b) [] n = n := rfl
      rw [List.foldl_nil, hnil]
  | cons d values ih =>
      intro n hn
      rw [List.forall_mem_cons] at hvalues
      rw [List.foldl_cons, appendDigit_ofNat hb hn hvalues.1]
      exact ih hvalues.2 (Rounding.short_roundUnits Nat.one_pos)

theorem DigitOf.isAlphanum {radix : Nat} {c : Char} {d : Nat} (h : DigitOf radix c d) :
    c.isAlphanum = true := by
  rcases h.listed with ⟨alphabet, hmem, hplace⟩
  have hall : ∀ alphabet ∈ digitAlphabets, alphabet.all Char.isAlphanum = true := by decide
  exact List.all_eq_true.mp (hall alphabet hmem) c (List.mem_of_getElem? hplace)

theorem RadixMark.isAlphanum {c : Char} {radix : Nat} (h : RadixMark c radix) :
    c.isAlphanum = true := by
  cases h with
  | hexadecimal h => rcases h with rfl | rfl <;> rfl
  | octal h => rcases h with rfl | rfl <;> rfl
  | binary h => rcases h with rfl | rfl <;> rfl

/-- Nothing is thrown away of letters and digits. -/
theorem ofChars?_of_isAlphanum {cs : List Char} (hne : cs ≠ [])
    (h : ∀ c ∈ cs, c.isAlphanum = true) : ofChars? cs = literal? cs := by
  have hblank : ∀ c ∈ cs, Text.isBlank c = false :=
    fun c hc => Text.isBlank_eq_false_of_isAlphanum (h c hc)
  have hcommas : cs.filter (· != ',') = cs := by
    refine List.filter_eq_self.mpr fun c hc => bne_iff_ne.mpr ?_
    rintro rfl
    exact absurd (h _ hc) (by decide)
  have hcleaned : cleaned cs = cs := by
    rw [cleaned, hcommas]
    exact (Text.isTrimmed_of_forall hblank).trim_eq_self
  have hany : ¬ ∀ c ∈ cs, Text.isBlank c = true := by
    intro hall
    rcases List.exists_mem_of_ne_nil cs hne with ⟨c, hc⟩
    exact absurd ((hblank c hc).symm.trans (hall c hc)) Bool.false_ne_true
  rw [ofChars?_of_not_blank hany, hcleaned, if_neg hne]

theorem forall_lt_of_digitOf {radix : Nat} {digits : List Char} {values : List Nat}
    (h : List.Forall₂ (DigitOf radix) digits values) : ∀ d ∈ values, d < radix := by
  induction h with
  | nil => exact fun d hd => absurd hd List.not_mem_nil
  | cons hd _ ih => exact List.forall_mem_cons.mpr ⟨hd.lt, ih⟩

theorem forall_isAlphanum_of_digitOf {radix : Nat} {digits : List Char} {values : List Nat}
    (h : List.Forall₂ (DigitOf radix) digits values) : ∀ c ∈ digits, c.isAlphanum = true := by
  induction h with
  | nil => exact fun c hc => absurd hc List.not_mem_nil
  | cons hd _ ih => exact List.forall_mem_cons.mpr ⟨hd.isAlphanum, ih⟩

theorem ofNat_zero : ofNat 0 = zero false := by
  rw [ofNat, Nat.zero_mul, ofUnits_zero]

section Literal

variable {text : String} {mark : Char} {radix b : Nat} {digits : List Char} {values : List Nat}

/-- A literal with a radix is read as what is left after its last digit. -/
theorem ofText?_of_accumulated (htext : text.toList = '0' :: mark :: digits) (hb : b ≤ 4)
    (hmark : RadixMark mark (Nat.pow 2 b)) (hne : digits ≠ [])
    (hdigits : List.Forall₂ (DigitOf (Nat.pow 2 b)) digits values) :
    ofText? text = (some (ofNat (accumulated (Nat.pow 2 b) values 0))).filter isFinite := by
  have halphanum : ∀ c ∈ '0' :: mark :: digits, c.isAlphanum = true := by
    rw [List.forall_mem_cons, List.forall_mem_cons]
    exact ⟨rfl, hmark.isAlphanum, forall_isAlphanum_of_digitOf hdigits⟩
  have hread : radixLiteral? ('0' :: mark :: digits) =
      some (values.foldl (appendDigit (Nat.pow 2 b)) (zero false)) :=
    radixLiteral?_eq_some_iff.mpr (.intro hmark hne hdigits)
  rw [← ofNat_zero, foldl_appendDigit hb (forall_lt_of_digitOf hdigits)
    (Rounding.short_of_le (Nat.zero_le _))] at hread
  rw [ofText?, htext, ofChars?_of_isAlphanum (List.cons_ne_nil _ _) halphanum, literal?, hread]
  rfl

/-- A whole number is finite below the limit only. -/
theorem filter_ofNat {n : Nat} (hn : Short n) :
    (some (ofNat n)).filter isFinite = if n < wholeLimit then some (ofNat n) else none := by
  by_cases hlt : n < wholeLimit
  · rcases exists_ofNat_of_short hn hlt with ⟨m, hm, -⟩
    rw [if_pos hlt, hm]
    rfl
  · rw [if_neg hlt, ofNat_of_wholeLimit_le (Nat.le_of_not_lt hlt)]
    rfl

theorem ite_eq_none_iff {n : Nat} :
    (if n < wholeLimit then some (ofNat n) else none) = none ↔ wholeLimit ≤ n := by
  rw [← Nat.not_lt]
  simp only [ite_eq_right_iff, reduceCtorEq, imp_false]

/-- A literal with a radix stands for the double nearest to the number its
    digits denote, and for none exactly when that is out of range; but a
    literal that loses a tie is read as the number before the nearest one. -/
theorem ofText?_of_radix (htext : text.toList = '0' :: mark :: digits)
    (hmark : RadixMark mark radix) (hne : digits ≠ [])
    (hdigits : List.Forall₂ (DigitOf radix) digits values) :
    ∃ nearest, IsNearest (value radix values) nearest ∧
      (ofText? text = none ↔ wholeLimit ≤ nearest) ∧
      (nearest < wholeLimit →
        ((∀ below, ¬ LosesTie radix values below) → ofText? text = some (ofNat nearest)) ∧
        ∀ below, LosesTie radix values below → ofText? text = some (ofNat below) ∧
          Short below ∧ below < nearest ∧ ∀ n, Short n → below < n → nearest ≤ n) := by
  rcases hmark.exists_pow with ⟨b, hb, rfl⟩
  have hvalues := forall_lt_of_digitOf hdigits
  have hread := ofText?_of_accumulated htext hb hmark hne hdigits
  refine ⟨_, Rounding.isNearest_roundUnits_one _, ?_⟩
  by_cases htie : ∃ below, LosesTie (Nat.pow 2 b) values below
  · -- What the fold leaves is the short number in front of the nearest one.
    rcases htie with ⟨below, h⟩
    rcases h.before_nearest hvalues with ⟨hleft, hshort, hlt, -, hlimit⟩
    refine ⟨?_, fun hrange => ⟨fun hnone => absurd h (hnone below), fun other hother => ?_⟩⟩
    · rw [hread, hleft, filter_ofNat hshort, ite_eq_none_iff]
      exact ⟨fun hle => Nat.le_trans hle hlt.le, hlimit⟩
    · rcases hother.before_nearest hvalues with ⟨hleft', hshort', hlt', hnext', -⟩
      rw [hread, hleft', filter_ofNat hshort', if_pos (Nat.lt_trans hlt' hrange)]
      exact ⟨rfl, hshort', hlt', hnext'⟩
  · have hall : ∀ below, ¬ LosesTie (Nat.pow 2 b) values below := fun below h => htie ⟨below, h⟩
    rw [hread, accumulated_eq_roundUnits hvalues hall,
      filter_ofNat (Rounding.short_roundUnits Nat.one_pos), ite_eq_none_iff]
    refine ⟨Iff.rfl, fun hrange => ⟨fun _ => if_pos hrange, fun below h => absurd h (hall below)⟩⟩

end Literal

/-- The digits of `2 ^ 57 + 17` in radix sixteen. -/
def tieDigits : List Nat :=
  2 :: List.replicate 12 0 ++ [1, 1]

/-- Reading loses the last digit after a tie at the one before it; nothing is
    lost of three. -/
theorem ofText?_of_radix_tie :
    (IsNearest (value 16 tieDigits) 144115188075855904 ∧
      LosesTie 16 tieDigits 144115188075855872 ∧
      ofText? "0x200000000000011" = some (ofNat 144115188075855872)) ∧
    (∀ below, ¬ LosesTie 2 [1, 1] below) ∧ ofText? "0B11" = some (ofNat 3) := by
  have htext : "0x200000000000011".toList =
      '0' :: 'x' :: ('2' :: List.replicate 12 '0' ++ ['1', '1']) := by decide
  have hdigits : List.Forall₂ (DigitOf 16) ('2' :: List.replicate 12 '0' ++ ['1', '1'])
      tieDigits := (mapM_digitOfRadix?_iff (Nat.le_refl 16)).mp (by decide)
  have hbelow : roundUnits (value 16 (2 :: List.replicate 12 0 ++ [1])) 1 *
      Nat.pow 16 [1].length = 144115188075855872 := by decide
  have htie : LosesTie 16 tieDigits 144115188075855872 :=
    hbelow ▸ .intro (by decide) ⟨Nat.pow 2 51, 0, by decide, by decide, by decide⟩ (by decide)
  have hnone : ∀ below, ¬ LosesTie 2 [1, 1] below :=
    fun below h => absurd (LosesTie.le (b := 1) h) (by decide)
  have hbinary : "0B11".toList = '0' :: 'B' :: ['1', '1'] := by decide
  have hthree : List.Forall₂ (DigitOf 2) ['1', '1'] [1, 1] :=
    (mapM_digitOfRadix?_iff (by decide)).mp (by decide)
  have hround : roundUnits (value 16 tieDigits) 1 = 144115188075855904 := by decide
  have hround' : roundUnits (value 2 [1, 1]) 1 = 3 := by decide
  rcases ofText?_of_radix htext (.hexadecimal (.inl rfl)) (List.cons_ne_nil _ _) hdigits with
    ⟨nearest, hnearest, -, hread⟩
  rcases ofText?_of_radix hbinary (.binary (.inr rfl)) (List.cons_ne_nil _ _) hthree with
    ⟨nearest', hnearest', -, hread'⟩
  have heq := hnearest.unique (Rounding.isNearest_roundUnits_one _)
  have heq' := hnearest'.unique (Rounding.isNearest_roundUnits_one _)
  rw [hround] at heq
  rw [hround'] at heq'
  subst heq heq'
  exact ⟨⟨hnearest, htie, ((hread (by decide +kernel)).2 _ htie).1⟩, hnone,
    (hread' (by decide +kernel)).1 hnone⟩

/-- The same number without a radix is rounded once, and to the other side of
    the middle. -/
theorem ofText?_radix_ne_nearest :
    IsNearest (value 16 tieDigits) 144115188075855904 ∧
      ofText? "0x200000000000011" = some (ofNat 144115188075855872) ∧
      ofNat 144115188075855872 ≠ ofNat 144115188075855904 ∧
      ofText? "144115188075855889" = some (ofNat 144115188075855904) := by
  have hround : roundUnits (value 16 tieDigits) 1 = 144115188075855904 := by decide
  exact ⟨hround ▸ Rounding.isNearest_roundUnits_one _, by decide +kernel, by decide +kernel, by decide +kernel⟩

end Number

end Worksheet
