import Worksheet.Proofs.Formula.Call
import Worksheet.Proofs.Formula.Operation
import Worksheet.Proofs.Formula.Overflow
import Worksheet.Proofs.Number.Integer

/-!
# Arithmetic on Integers

That formulas compute with integers exactly.

An operation on two integers up to `2 ^ 53` has an exact result, and where that
is such an integer itself it is kept and shown with its digits. A quotient is
one when the divisor divides the dividend. It does not matter how the integers
are signed: a sign in front of the first one splits nothing, and one in front
of the second comes too late.

A sum adds its terms one after the other, so it is exact as long as every sum
on the way is within the bound. Cells without a number are passed over.

## Main definitions

* `Operator.onIntegers`: The exact result of an operation on integers.
* `Formula.OperationText`: The texts of an operation on two texts.
* `Grid.IntegerCell`: A cell holds an integer, or no number.

## Theorems

* `Operator.exists_isInteger_apply`: Operations on integers.
* `Aggregate.isInteger_sum`: Sums of integers.
* `Formula.ofText_of_operationText`: What an operation on integers is read as.
* `Grid.shown_of_integers`: What is shown for them.
-/

namespace Worksheet

open Number (IsInteger IntegerText)

/-- The result of an operation on integers, which is exact for a division where
    the divisor divides the dividend. -/
def Operator.onIntegers : Operator → Int → Int → Int
  | .add, a, b => a + b
  | .sub, a, b => a - b
  | .mul, a, b => a * b
  | .div, a, b => a / b

/-- The exact result on two integers is the integer one, a division being exact
    when it leaves no rest. -/
theorem Operator.exact_intCast {op : Operator} {a b : Int} (hdiv : op = .div → b ≠ 0 ∧ b ∣ a) :
    op.exact a b = op.onIntegers a b := by
  cases op with
  | add => exact (Int.cast_add a b).symm
  | sub => exact (Int.cast_sub a b).symm
  | mul => exact (Int.cast_mul a b).symm
  | div => exact (Int.cast_div (hdiv rfl).2 (Int.cast_ne_zero.mpr (hdiv rfl).1)).symm

/-- An integer is zero as a number exactly when it is zero. -/
theorem Number.IsInteger.isZero_iff {x : Number} {n : Int} (h : IsInteger x n) :
    x.isZero = true ↔ n = 0 := by
  rcases h.exists_units with ⟨negative, m, rfl, hm, -⟩
  have hzero : (Number.finite negative m).isZero = decide (m.units = 0) := rfl
  rw [hzero, decide_eq_true_iff, hm, Nat.mul_eq_zero,
    or_iff_left (Rounding.two_pow_pos Rounding.unitBits).ne', Int.natAbs_eq_zero]

/-- An operation on integers has the exact result. -/
theorem Operator.exists_isInteger_apply {op : Operator} {x y : Number} {a b : Int}
    (hx : IsInteger x a) (hy : IsInteger y b) (hdiv : op = .div → b ≠ 0 ∧ b ∣ a)
    (hn : (op.onIntegers a b).natAbs ≤ 2 ^ 53) :
    ∃ z, op.apply x y = .number z ∧ IsInteger z (op.onIntegers a b) := by
  have hzero : op = .div → y.isZero = false := by
    intro hop
    rw [Bool.eq_false_iff, ne_eq, hy.isZero_iff]
    exact (hdiv hop).1
  rcases Operator.rounds_apply hx.isFinite hy.isFinite hzero with ⟨z, hz, hrounds⟩
  refine ⟨z, hz, hrounds.isInteger ?_ hn⟩
  rw [hx.exact, hy.exact, exact_intCast hdiv]

/-- Adding integers one after the other is exact as long as all sums on the way
    are within the bound. -/
theorem Aggregate.isInteger_foldl {xs : List Number} {ns : List Int}
    (h : List.Forall₂ IsInteger xs ns) : ∀ {y : Number} {a : Int}, IsInteger y a →
      (∀ k, (a + (ns.take k).sum).natAbs ≤ 2 ^ 53) →
        IsInteger (xs.foldl (· + ·) y) (a + ns.sum) := by
  induction h with
  | nil =>
      intro y a hy _
      rw [List.sum_nil, add_zero]
      exact hy
  | @cons x n xs ns hx _ ih =>
      intro y a hy hbound
      have hfirst := hbound 1
      rw [List.take_succ_cons, List.take_zero, List.sum_singleton] at hfirst
      rw [List.foldl_cons, List.sum_cons, ← add_assoc]
      refine ih (hy.add hx hfirst) fun k => ?_
      have hnext := hbound (k + 1)
      rw [List.take_succ_cons, List.sum_cons, ← add_assoc] at hnext
      exact hnext

/-- A sum of integers is exact as long as every partial sum stays within 2⁵³. -/
theorem Aggregate.isInteger_sum {xs : List Number} {ns : List Int}
    (h : List.Forall₂ IsInteger xs ns) (hbound : ∀ k, (ns.take k).sum.natAbs ≤ 2 ^ 53) :
    IsInteger (Aggregate.sum.apply xs) ns.sum := by
  have happly : Aggregate.sum.apply xs = total xs := by
    cases xs <;> rfl
  have hzero : IsInteger (Number.zero false) 0 := by
    refine ⟨rfl, ?_⟩
    rw [Number.zero, Number.exact, Int.cast_zero]
    exact zero_div _
  rw [happly, total, ← zero_add ns.sum]
  refine isInteger_foldl h hzero fun k => ?_
  rw [zero_add]
  exact hbound k

namespace Formula

/-- The text is the operation on two texts, with blanks around any part. -/
inductive OperationText (op : Operator) (left right : List Char) : List Char → Prop where
  | intro {b₁ b₂ b₃ b₄ b₅ : List Char}
      (hblank : ∀ b ∈ [b₁, b₂, b₃, b₄, b₅], ∀ c ∈ b, Text.isBlank c = true) :
      OperationText op left right
        (b₁ ++ '=' :: (b₂ ++ (left ++ b₃ ++ op.sign :: (b₄ ++ right) ++ b₅)))

/-- Neither a digit nor a blank is a sign. -/
theorem ofSign?_eq_none {c : Char} (h : c.isDigit = true ∨ Text.isBlank c = true) :
    Operator.ofSign? c = none := by
  refine Option.eq_none_iff_forall_ne_some.mpr fun op hop => ?_
  rw [Operator.ofSign?_eq_some_iff.mp hop] at h
  cases op <;> exact absurd h (by decide)

theorem isBlank_of_isLineBreak {c : Char} (h : Text.isLineBreak c = true) :
    Text.isBlank c = true := by
  simp only [Text.isLineBreak, Bool.or_eq_true, beq_iff_eq] at h
  rcases h with ((rfl | rfl) | rfl) | rfl <;> decide

/-- An integer is written on one line. -/
theorem isLineBreak_eq_false {cs : List Char} {n : Int} (h : IntegerText cs n) :
    ∀ c ∈ cs, Text.isLineBreak c = false := by
  intro c hc
  by_contra hbreak
  have hblank := isBlank_of_isLineBreak (Bool.not_eq_false _ ▸ hbreak)
  rw [h.isBlank_eq_false c hc] at hblank
  exact Bool.false_ne_true hblank

/-- An operation on integers is split at the sign between them, however they are
    signed themselves. -/
theorem ofText_of_operationText {op : Operator} {left right : List Char} {a b : Int}
    {text : String} (h : OperationText op left right text.toList) (hleft : IntegerText left a)
    (hright : IntegerText right b) :
    ofText text = .ok (.binary op (Operand.ofChars left) (Operand.ofChars right)) := by
  generalize htext : text.toList = cs at h
  rcases h with ⟨hblank⟩
  rename_i b₁ b₂ b₃ b₄ b₅
  simp only [List.forall_mem_cons] at hblank
  rcases hblank with ⟨hb₁, hb₂, hb₃, hb₄, hb₅, -⟩
  have hl : Text.trim Text.isBlank (left ++ b₃) = left := by
    rw [Text.trim_append_right hb₃, hleft.isTrimmed.trim_eq_self]
  have hr : Text.trim Text.isBlank (b₄ ++ right) = right := by
    rw [Text.trim_append_left hb₄, hright.isTrimmed.trim_eq_self]
  have hlne : left ++ b₃ ≠ [] := List.append_ne_nil_of_left_ne_nil hleft.ne_nil _
  have hrne : b₄ ++ right ≠ [] := List.append_ne_nil_of_right_ne_nil _ hright.ne_nil
  -- No letter begins the body, so it is no call.
  have hhead : ∀ c ∈ (left ++ b₃).head?, Text.isBlank c = false ∧ c.isAlpha = false := by
    rw [List.head?_append_of_ne_nil _ hleft.ne_nil]
    intro c hc
    have hmem := List.mem_of_mem_head? hc
    exact ⟨hleft.isBlank_eq_false c hmem, hleft.eq_false (by decide) (by decide)
      (fun c hc => Text.isAlpha_eq_false_of_isDigit hc) c hmem⟩
  have hlast : ∀ c ∈ (b₄ ++ right).getLast?, Text.isBlank c = false := by
    rw [List.getLast?_append_of_ne_nil _ hright.ne_nil]
    exact hright.isTrimmed.2
  -- Only the first character of the left side can be a sign, and it has no side
  -- to its left.
  have hsign : ∀ c ∈ (left ++ b₃).tail, Operator.ofSign? c = none := by
    rw [List.tail_append_of_ne_nil hleft.ne_nil, List.forall_mem_append]
    exact ⟨fun c hc => ofSign?_eq_none (.inl (hleft.isDigit_tail c hc)),
      fun c hc => ofSign?_eq_none (.inr (hb₃ c hc))⟩
  have hline : ∀ c ∈ Text.trim Text.isBlank (left ++ b₃) ++ Text.trim Text.isBlank (b₄ ++ right),
      Text.isLineBreak c = false := by
    rw [hl, hr, List.forall_mem_append]
    exact ⟨isLineBreak_eq_false hleft, isLineBreak_eq_false hright⟩
  rcases ofBody_of_sides hlne hrne hhead hlast hsign hline op with ⟨htrim, hbody⟩
  rw [ofText_eq_ofBody_of_isTrimmed hb₁ hb₂ hb₅ htrim htext, hbody, hl, hr]

end Formula

/-- An integer is an operand as it is. -/
theorem Operand.exists_isInteger {cs : List Char} {n : Int} (h : IntegerText cs n)
    (hn : n.natAbs ≤ 2 ^ 53) : ∃ x, ofChars cs = .number x ∧ IsInteger x n := by
  have hcleaned : IntegerText (Number.cleaned cs) n := by
    rw [h.cleaned]
    exact h
  rcases Number.exists_isInteger_of_cleaned hcleaned hn with ⟨x, hread, hx⟩
  exact ⟨x, ofChars_of_number h.isTrimmed.trim_eq_self hread, hx⟩

namespace Grid

/-- The text of a cell is an integer, without its commas and without blanks at
    its ends, or it is no number. -/
inductive IntegerCell : String → Option Int → Prop where
  | integer {text : String} {n : Int} (h : IntegerText (Number.cleaned text.toList) n)
      (hn : n.natAbs ≤ 2 ^ 53) : IntegerCell text (some n)
  | other {text : String} (h : Number.ofText? text = none) : IntegerCell text none

/-- The cells of a scan that hold integers read as these integers, in order, and
    the others are left out. -/
theorem forall₂_numberAt? {g : Grid} {value : Address → Option Int} {cells : List Address}
    (h : ∀ a ∈ cells, IntegerCell (g.text a) (value a)) :
    List.Forall₂ IsInteger (cells.filterMap g.numberAt?) (cells.filterMap value) := by
  induction cells with
  | nil => exact .nil
  | cons a cells ih =>
      rw [List.forall_mem_cons] at h
      have hcells := ih h.2
      have ha := h.1
      generalize hvalue : value a = v at ha
      cases ha with
      | integer hn hbound =>
          rcases Number.exists_isInteger_of_cleaned hn hbound with ⟨x, hread, hx⟩
          have hnumber : g.numberAt? a = some x := hread
          rw [List.filterMap_cons_some hnumber, List.filterMap_cons_some hvalue]
          exact .cons hx hcells
      | other hnone =>
          have hnumber : g.numberAt? a = none := hnone
          rw [List.filterMap_cons_none hnumber, List.filterMap_cons_none hvalue]
          exact hcells

variable (g : Grid) {op : Operator} {left right : List Char} {a b : Int} {text : String}

/-- An operation on integers whose result is an integer within 2⁵³ is shown as
    that integer. -/
theorem shown_of_operationText (h : Formula.OperationText op left right text.toList)
    (hleft : IntegerText left a) (hright : IntegerText right b) (ha : a.natAbs ≤ 2 ^ 53)
    (hb : b.natAbs ≤ 2 ^ 53) (hdiv : op = .div → b ≠ 0 ∧ b ∣ a)
    (hn : op ≠ .div → (op.onIntegers a b).natAbs ≤ 2 ^ 53) :
    g.shown text = toString (op.onIntegers a b) := by
  -- A quotient is not larger than what is divided.
  have hresult : (op.onIntegers a b).natAbs ≤ 2 ^ 53 := by
    by_cases hop : op = .div
    · subst hop
      exact (Int.natAbs_ediv_le_natAbs a b).trans ha
    · exact hn hop
  rcases Operand.exists_isInteger hleft ha with ⟨x, hx, hxa⟩
  rcases Operand.exists_isInteger hright hb with ⟨y, hy, hyb⟩
  rcases Operator.exists_isInteger_apply hxa hyb hdiv hresult with ⟨z, hz, hzn⟩
  have hvalue : g.value text = .number z := by
    rw [value, Formula.ofText_of_operationText h hleft hright, hx, hy]
    exact hz
  rw [shown, hvalue]
  exact hzn.text hresult

/-- A division by the integer zero is shown as the fault. -/
theorem shown_of_division (h : Formula.OperationText .div left right text.toList)
    (hleft : IntegerText left a) (hright : IntegerText right 0) : g.shown text = "#DIV/0" := by
  rcases Operand.exists_isInteger hright (by decide) with ⟨y, hy, hzero⟩
  have hvalue : g.value text = .fault .divisionByZero := by
    rw [value, Formula.ofText_of_operationText h hleft hright, hy]
    exact if_pos (hzero.isZero_iff.mpr rfl)
  rw [shown, hvalue]
  rfl

/-- A sum of integers with bounded partial sums is shown as their sum. -/
theorem shown_of_sum {l₁ d₁ l₂ d₂ : List Char}
    (h : Formula.CallText .sum l₁ d₁ l₂ d₂ text.toList) {value : Address → Option Int}
    (hcells : ∀ a ∈ g.scan ⟨.ofParts l₁ d₁, .ofParts l₂ d₂⟩, IntegerCell (g.text a) (value a))
    (hbound : ∀ k, (((g.scan ⟨.ofParts l₁ d₁, .ofParts l₂ d₂⟩).filterMap value).take k).sum.natAbs
      ≤ 2 ^ 53) :
    g.shown text =
      toString ((g.scan ⟨.ofParts l₁ d₁, .ofParts l₂ d₂⟩).filterMap value).sum := by
  generalize hscan : g.scan ⟨.ofParts l₁ d₁, .ofParts l₂ d₂⟩ = cells at hcells hbound ⊢
  have hsum := Aggregate.isInteger_sum (forall₂_numberAt? hcells) hbound
  have htotal := hbound (cells.filterMap value).length
  rw [List.take_length] at htotal
  rw [shown, value_eq_of_callText h, hscan]
  exact hsum.text htotal

/-- Integers up to `2 ^ 53` are computed with exactly. Between two of them an
    operation whose exact result is such an integer shows that, which for a
    division asks for a divisor that is not zero and divides; a division by zero
    shows a fault whatever is divided. A sum of a range of cells with integers
    or without a number shows the exact sum of the integers, if none of the sums
    on the way, row by row, is beyond the bound. -/
theorem shown_of_integers (g : Grid) :
    (∀ (op : Operator) (left right : List Char) (a b : Int) (text : String),
      Formula.OperationText op left right text.toList →
      IntegerText left a → IntegerText right b →
        (op = .div → b = 0 → g.shown text = "#DIV/0") ∧
        (a.natAbs ≤ 2 ^ 53 → b.natAbs ≤ 2 ^ 53 → (op = .div → b ≠ 0 ∧ b ∣ a) →
          (op ≠ .div → (op.onIntegers a b).natAbs ≤ 2 ^ 53) →
            g.shown text = toString (op.onIntegers a b))) ∧
    ∀ (l₁ d₁ l₂ d₂ : List Char) (text : String) (cells : List Address)
      (value : Address → Option Int),
      Formula.CallText .sum l₁ d₁ l₂ d₂ text.toList → cells.Pairwise Address.Before →
      (∀ a, a ∈ cells ↔ a.InLimits ∧ g.Inside a ∧
        Between (Numeral.decimalValue d₁) (Numeral.decimalValue d₂) (a.row.toNat + 1) ∧
        Between (Column.value l₁) (Column.value l₂) (a.col.toNat + 1)) →
      (∀ a ∈ cells, IntegerCell (g.text a) (value a)) →
      (∀ k, ((cells.filterMap value).take k).sum.natAbs ≤ 2 ^ 53) →
        g.shown text = toString (cells.filterMap value).sum := by
  refine ⟨fun op left right a b text h hleft hright => ⟨?_, g.shown_of_operationText h hleft hright⟩,
    fun l₁ d₁ l₂ d₂ text cells value h hordered hmem => ?_⟩
  · rintro rfl rfl
    exact g.shown_of_division h hleft hright
  · -- In order there is only one list of these cells.
    have hscan : cells = g.scan ⟨.ofParts l₁ d₁, .ofParts l₂ d₂⟩ := by
      refine hordered.eq_of_mem_iff (g.pairwise_scan _) fun a => ?_
      rw [hmem, mem_scan_iff, Corners.covers_ofParts_iff]
    subst hscan
    exact g.shown_of_sum h

/-- A difference and a sum at the bound, and a division by a signed zero. -/
theorem shown_of_integers_bound :
    let g : Grid := ⟨fun a => if a = ⟨0, 0⟩ then "9,007,199,254,740,992"
      else if a = ⟨1, 1⟩ then " -5" else "=1", some (9, 9)⟩
    g.shown " =-9007199254740991 - +1" = "-9007199254740992" ∧ g.shown "=7/-0" = "#DIV/0" ∧
      g.shown "=SUM(A1:B2)" = "9007199254740987" := by
  intro g
  have hblank : ∀ b ∈ [[' '], [], [' '], [' '], []], ∀ c ∈ b, Text.isBlank c = true := by
    simp only [List.forall_mem_cons, List.not_mem_nil, false_imp_iff, implies_true, and_true]
    exact ⟨by decide, by decide, by decide⟩
  have hnone : ∀ b ∈ [[], [], [], [], []], ∀ c ∈ b, Text.isBlank c = true := by
    simp only [List.forall_mem_cons, List.not_mem_nil, false_imp_iff, implies_true, and_self]
  have hminus : IntegerText "-9007199254740991".toList (-9007199254740991) :=
    .intro .minus (List.cons_ne_nil _ _) (List.all_eq_true.mp (by decide))
  have hplus : IntegerText "+1".toList 1 :=
    .intro .plus (List.cons_ne_nil _ _) (List.all_eq_true.mp (by decide))
  have hseven : IntegerText "7".toList 7 := Number.integerText_toString 7
  have hzero : IntegerText "-0".toList 0 :=
    .intro .minus (List.cons_ne_nil _ _) (List.all_eq_true.mp (by decide))
  have hsub : Formula.OperationText .sub "-9007199254740991".toList "+1".toList
      " =-9007199254740991 - +1".toList := .intro hblank
  have hdiv : Formula.OperationText .div "7".toList "-0".toList "=7/-0".toList := .intro hnone
  have hcall : Formula.CallText .sum ['A'] ['1'] ['B'] ['2'] "=SUM(A1:B2)".toList := by
    simpa using @Formula.callText_plain .sum ['S', 'U', 'M'] ['A'] ['1'] ['B'] ['2'] (by decide)
      (by decide) (by decide)
  have hscan : g.scan ⟨.ofParts ['A'] ['1'], .ofParts ['B'] ['2']⟩ =
      [⟨0, 0⟩, ⟨0, 1⟩, ⟨1, 0⟩, ⟨1, 1⟩] := by decide +kernel
  have hmem := fun a => (g.mem_scan_iff ⟨.ofParts ['A'] ['1'], .ofParts ['B'] ['2']⟩ a).trans
    (by rw [Corners.covers_ofParts_iff])
  have hother : IntegerCell "=1" none := .other (by decide)
  have hlarge : IntegerCell "9,007,199,254,740,992" (some 9007199254740992) := by
    have hcleaned : Number.cleaned "9,007,199,254,740,992".toList = "9007199254740992".toList := by
      decide
    refine .integer ?_ (by decide)
    rw [hcleaned]
    exact Number.integerText_toString 9007199254740992
  have hsmall : IntegerCell " -5" (some (-5)) := by
    have hcleaned : Number.cleaned " -5".toList = "-5".toList := by decide
    refine .integer ?_ (by decide)
    rw [hcleaned]
    exact Number.integerText_toString (-5)
  have hsum := (shown_of_integers g).2 _ _ _ _ _ _
    (fun a => if a = ⟨0, 0⟩ then some 9007199254740992 else if a = ⟨1, 1⟩ then some (-5) else none)
    hcall (g.pairwise_scan _) hmem
  rw [hscan] at hsum
  refine ⟨((shown_of_integers g).1 _ _ _ _ _ _ hsub hminus hplus).2 (by decide) (by decide)
    (fun h => by cases h) (fun _ => by decide),
    ((shown_of_integers g).1 _ _ _ _ _ _ hdiv hseven hzero).1 rfl rfl, hsum ?_ fun k => ?_⟩
  · simp only [List.forall_mem_cons]
    exact ⟨hlarge, hother, hother, hsmall, fun a ha => absurd ha List.not_mem_nil⟩
  · match k with
    | 0 => decide
    | 1 => decide
    | k + 2 =>
        -- There are only two integers.
        rw [List.take_of_length_le (Nat.le_add_left 2 k)]
        decide

end Grid

end Worksheet
