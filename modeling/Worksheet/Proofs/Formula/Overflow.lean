import Worksheet.Proofs.Attempt
import Worksheet.Proofs.Formula.Corners
import Worksheet.Proofs.Formula.Extremum
import Worksheet.Proofs.Formula.Grammar

/-!
# Formulas That Overflow

That every formula has a value, and when the value is infinite.

Whatever is read as a number is finite, be it in the formula, in a cell it
names or in a cell of its range, and an operand that is none counts as zero.
So an operation only meets finite numbers, and it is infinite exactly when its
exact result is out of range. A division by either zero is a fault before it
comes to that.

A sum of many numbers can overflow on the way. From there on the running sum
is infinite and stays so with the same sign, since the terms are finite; it
never meets the opposite infinity, and dividing by the count does not bring it
back. Extrema begin with an infinite number as well, but what they end at is
one of the terms.

## Main definitions

* `Operator.exact`: The exact result of an operation.
* `Aggregate.RunningOverflow`: A running sum that leaves the finite range.
* `Operand.HoldsFinite`, `Formula.HoldsFinite`: The numbers in a formula are
  finite.

## Theorems

* `Operator.rounds_apply`: Operations on finite numbers.
* `Aggregate.total_outcome`: A sum is finite, or one of its steps overflows.
* `Aggregate.apply_outcome`: So is the value of every function, and extrema
  are finite.
* `Formula.holdsFinite_of_ofText`: Formulas only hold finite numbers.
* `Grid.value_overflow`: The values of formulas.
-/

namespace Worksheet

/-- The exact result of an operation. -/
def Operator.exact : Operator → ℚ → ℚ → ℚ
  | .add, x, y => x + y
  | .sub, x, y => x - y
  | .mul, x, y => x * y
  | .div, x, y => x / y

open Number (Rounds Overflows)

/-- An operation on finite numbers rounds its exact result, unless it divides by
    zero. -/
theorem Operator.rounds_apply {op : Operator} {x y : Number} (hx : x.isFinite = true)
    (hy : y.isFinite = true) (hdiv : op = .div → y.isZero = false) :
    ∃ z, op.apply x y = .number z ∧ Rounds z (op.exact x.exact y.exact) := by
  cases op with
  | add =>
      rcases Number.isFinite_iff.mp hx with ⟨a, m, rfl⟩
      rcases Number.isFinite_iff.mp hy with ⟨b, n, rfl⟩
      exact ⟨_, rfl, Number.rounds_add⟩
  | sub =>
      -- A difference is the sum with the opposite number.
      rw [← Number.isFinite_neg] at hy
      have hsub : x.exact - y.exact = x.exact + (-y).exact := by
        rw [Number.exact_neg, sub_eq_add_neg]
      have happly : apply .sub x y = .number (x + -y) := rfl
      rw [exact, hsub, happly]
      generalize -y = y at hy
      rcases Number.isFinite_iff.mp hx with ⟨a, m, rfl⟩
      rcases Number.isFinite_iff.mp hy with ⟨b, n, rfl⟩
      exact ⟨_, rfl, Number.rounds_add⟩
  | mul =>
      rcases Number.isFinite_iff.mp hx with ⟨a, m, rfl⟩
      rcases Number.isFinite_iff.mp hy with ⟨b, n, rfl⟩
      exact ⟨_, rfl, Number.rounds_mul⟩
  | div =>
      have hzero := hdiv rfl
      have happly : apply .div x y = .number (x / y) := by
        rw [apply, hzero, if_neg Bool.false_ne_true]
      rw [happly]
      rcases Number.isFinite_iff.mp hx with ⟨a, m, rfl⟩
      rcases Number.isFinite_iff.mp hy with ⟨b, n, rfl⟩
      exact ⟨_, rfl, Number.rounds_div (of_decide_eq_false hzero)⟩

namespace Aggregate

/-- A step of the running sum of some numbers leaves the finite range, with this
    sign. -/
inductive RunningOverflow (negative : Bool) : List Number → Prop where
  | intro {front back : List Number} {x : Number} (hfront : (total front).isFinite = true)
      (hx : x.isFinite = true) (h : Overflows ((total front).exact + x.exact) negative) :
      RunningOverflow negative (front ++ x :: back)

/-- The running sum takes its last number last. -/
theorem total_concat (xs : List Number) (x : Number) : total (xs ++ [x]) = total xs + x := by
  rw [total, List.foldl_append]
  rfl

/-- What one more term does to a running sum: a sum that is still finite is
    rounded, and one that is not stays where it is. -/
theorem total_step {xs : List Number} {x : Number} (hx : x.isFinite = true) :
    ((total xs).isFinite = true →
        Rounds (total (xs ++ [x])) ((total xs).exact + x.exact)) ∧
      ∀ negative, total xs = .infinity negative → total (xs ++ [x]) = .infinity negative := by
  rcases Number.isFinite_iff.mp hx with ⟨b, n, rfl⟩
  rw [total_concat]
  refine ⟨fun hxs => ?_, fun negative hxs => ?_⟩
  · rcases Number.isFinite_iff.mp hxs with ⟨a, m, heq⟩
    rw [heq]
    exact Number.rounds_add
  · rw [hxs]
    rfl

/-- A sum of finite numbers is finite, unless a step of it overflows; then it is
    infinite with the sign of that step. -/
theorem total_outcome {xs : List Number} (hxs : ∀ x ∈ xs, x.isFinite = true) :
    (total xs).isFinite = true ∨
      ∃ negative, total xs = .infinity negative ∧ RunningOverflow negative xs := by
  induction xs using List.reverseRecOn with
  | nil => exact .inl rfl
  | append_singleton xs x ih =>
      rw [List.forall_mem_append, List.forall_mem_singleton] at hxs
      rcases ih hxs.1 with hfinite | ⟨negative, htotal, hoverflow⟩
      · refine ((total_step hxs.2).1 hfinite).isRounded.isFinite_or.imp_right ?_
        rintro ⟨negative, htotal, hoverflow⟩
        exact ⟨negative, htotal, .intro hfinite hxs.2 hoverflow⟩
      · refine .inr ⟨negative, (total_step hxs.2).2 negative htotal, ?_⟩
        cases hoverflow with
        | @intro front back y hfront hy h =>
            rw [List.append_assoc]
            exact .intro hfront hy h

/-- Finite numbers behind an infinite running sum leave it infinite. -/
theorem total_append_of_infinity {negative : Bool} {xs : List Number}
    (hxs : total xs = .infinity negative) {back : List Number}
    (hback : ∀ x ∈ back, x.isFinite = true) : total (xs ++ back) = .infinity negative := by
  induction back using List.reverseRecOn with
  | nil => rw [List.append_nil, hxs]
  | append_singleton back x ih =>
      rw [List.forall_mem_append, List.forall_mem_singleton] at hback
      rw [← List.append_assoc]
      exact (total_step hback.2).2 negative (ih hback.1)

/-- A sum of finite numbers is infinite exactly when some running sum overflows
    with its sign. -/
theorem total_eq_infinity_iff {xs : List Number} (hxs : ∀ x ∈ xs, x.isFinite = true)
    {negative : Bool} : total xs = .infinity negative ↔ RunningOverflow negative xs := by
  constructor
  · intro h
    rcases total_outcome hxs with hfinite | ⟨negative', htotal, hoverflow⟩
    · rw [h] at hfinite
      exact absurd hfinite Bool.false_ne_true
    · rw [h, Number.infinity.injEq] at htotal
      exact htotal ▸ hoverflow
  · intro h
    cases h with
    | @intro front back x hfront hx h =>
        rw [List.forall_mem_append, List.forall_mem_cons] at hxs
        have hstep := ((total_step hx).1 hfront).isRounded.eq_infinity_iff negative
        rw [← List.singleton_append, ← List.append_assoc]
        exact total_append_of_infinity (hstep.mpr h) hxs.2.2

/-- A count that fits a word is a finite number, and not less than one. -/
theorem exists_ofNat_count {n : Nat} (hpos : 0 < n) (hle : n ≤ Nat.pow 2 64) :
    ∃ m, Number.ofNat n = .finite false m ∧ Nat.pow 2 Rounding.unitBits ≤ m.units := by
  have hone : 1 ≤ Rounding.roundUnits n 1 := @Rounding.pow_le_roundUnits n 1 0 Nat.one_pos hpos
  have hround : Rounding.roundUnits n 1 ≤ Nat.pow 2 64 := by
    have hshort := @Rounding.short_mul_two_pow 1 (by decide) 64
    rw [Nat.one_mul] at hshort
    rw [← Rounding.roundUnits_of_short hshort]
    exact Rounding.roundUnits_le_roundUnits Nat.one_pos Nat.one_pos (Nat.mul_le_mul_right 1 hle)
  have hlt := Nat.lt_of_le_of_lt hround (Number.two_pow_lt_wholeLimit (by decide))
  rcases Number.exists_ofNat hlt with ⟨m, hm, hunits⟩
  refine ⟨m, hm, ?_⟩
  rw [hunits]
  exact Nat.le_mul_of_pos_left _ hone

/-- A division by one or more cannot overflow. -/
theorem isFinite_div_of_le {a : Bool} {m n : Magnitude}
    (hn : Nat.pow 2 Rounding.unitBits ≤ n.units) :
    (Number.finite a m / Number.finite false n).isFinite = true := by
  have hpos := Nat.lt_of_lt_of_le (Rounding.two_pow_pos Rounding.unitBits) hn
  have hle : Rounding.roundUnits (m.units * Nat.pow 2 Rounding.unitBits) n.units ≤
      Rounding.roundUnits m.units 1 :=
    Rounding.roundUnits_le_roundUnits hpos Nat.one_pos
      (Nat.le_trans (Nat.le_of_eq (Nat.mul_one _)) (Nat.mul_le_mul_left m.units hn))
  rw [Rounding.roundUnits_one m.representable] at hle
  have hlt := Nat.lt_of_le_of_lt hle m.representable.1
  rw [Number.finite_div a false m hpos.ne', Number.ofQuotient, dif_pos hlt]
  rfl

/-- An extremum of finite numbers is finite, that of none being zero. -/
theorem isFinite_extremum {f : Aggregate} (hf : f = min ∨ f = max) {xs : List Number}
    (hxs : ∀ x ∈ xs, x.isFinite = true) : (f.apply xs).isFinite = true := by
  by_cases hne : xs = []
  · rw [hne]
    rfl
  · rcases hf with rfl | rfl
    · exact hxs _ (isExtremum_min hne hxs).mem
    · exact hxs _ (isExtremum_max hne hxs).mem

/-- Sums and means are finite or infinite as the running sum is. -/
theorem apply_of_sums {f : Aggregate} (hf : f = sum ∨ f = avg) {xs : List Number} (hne : xs ≠ [])
    (hlength : xs.length ≤ Nat.pow 2 64) :
    ((total xs).isFinite = true → (f.apply xs).isFinite = true) ∧
      ∀ negative, total xs = .infinity negative → f.apply xs = .infinity negative := by
  have hempty : ¬ xs.isEmpty = true := mt List.isEmpty_iff.mp hne
  rcases hf with rfl | rfl
  · have happly : sum.apply xs = total xs := if_neg hempty
    rw [happly]
    exact ⟨id, fun _ => id⟩
  · have happly : avg.apply xs = total xs / Number.ofNat xs.length := if_neg hempty
    rcases exists_ofNat_count (List.length_pos_of_ne_nil hne) hlength with ⟨n, hn, hle⟩
    rw [happly, hn]
    refine ⟨fun hfinite => ?_, fun negative htotal => ?_⟩
    · rcases Number.isFinite_iff.mp hfinite with ⟨a, m, heq⟩
      rw [heq]
      exact isFinite_div_of_le hle
    · rw [htotal]
      cases negative <;> rfl

/-- A function of finite numbers has a value, which is infinite exactly when the
    function sums them and a step of the sum overflows with that sign. -/
theorem apply_outcome (f : Aggregate) {xs : List Number} (hxs : ∀ x ∈ xs, x.isFinite = true)
    (hlength : xs.length ≤ Nat.pow 2 64) : f.apply xs ≠ .nan ∧
      ∀ negative, f.apply xs = .infinity negative ↔
        (f = sum ∨ f = avg) ∧ RunningOverflow negative xs := by
  -- A finite result is told apart from NaN and the infinities at once.
  have hfinite (h : (f.apply xs).isFinite = true)
      (hnone : f = sum ∨ f = avg → (total xs).isFinite = true) : f.apply xs ≠ .nan ∧
        ∀ negative, f.apply xs = .infinity negative ↔
          (f = sum ∨ f = avg) ∧ RunningOverflow negative xs := by
    refine ⟨(Number.ne_of_isFinite h).1, fun negative => ?_⟩
    refine iff_of_false ((Number.ne_of_isFinite h).2 negative) ?_
    rintro ⟨hf, hoverflow⟩
    rw [← total_eq_infinity_iff hxs] at hoverflow
    exact (Number.ne_of_isFinite (hnone hf)).2 negative hoverflow
  by_cases hne : xs = []
  · subst hne
    exact hfinite rfl fun _ => rfl
  by_cases hf : f = sum ∨ f = avg
  · rcases apply_of_sums hf hne hlength with ⟨hkeeps, hinfinite⟩
    rcases total_outcome hxs with htotal | ⟨negative, htotal, -⟩
    · exact hfinite (hkeeps htotal) fun _ => htotal
    · rw [hinfinite negative htotal]
      refine ⟨by simp only [ne_eq, reduceCtorEq, not_false_eq_true], fun negative' => ?_⟩
      rw [← total_eq_infinity_iff hxs, htotal, and_iff_right hf]
  · have hextremum : f = min ∨ f = max := by
      cases f with
      | sum => exact absurd (.inl rfl) hf
      | avg => exact absurd (.inr rfl) hf
      | min => exact .inl rfl
      | max => exact .inr rfl
    exact hfinite (isFinite_extremum hextremum hxs) fun h => absurd h hf

end Aggregate

/-- The operand is finite, if it is a number. -/
def Operand.HoldsFinite : Operand → Prop
  | .reference _ => True
  | .number x => x.isFinite = true
  | .invalid _ => True

/-- The numbers in the formula are finite. -/
def Formula.HoldsFinite : Formula → Prop
  | .literal _ => True
  | .number x => x.isFinite = true
  | .aggregate _ _ => True
  | .binary _ left right => left.HoldsFinite ∧ right.HoldsFinite

/-- The number an operand is written as is finite. -/
theorem Operand.Written.holdsFinite {cs : List Char} {o : Operand} (h : Written cs o) :
    o.HoldsFinite := by
  cases h with
  | reference => trivial
  | number _ h => exact Number.isFinite_of_ofChars? h
  | invalid => trivial

/-- Only finite numbers are read in a formula. -/
theorem Formula.holdsFinite_of_ofText {text : String} {formula : Formula}
    (h : ofText text = .ok formula) : formula.HoldsFinite := by
  cases Written.of_ofText h with
  | literal => trivial
  | body _ hbody =>
      cases hbody with
      | aggregate => trivial
      | number _ _ hx => exact Number.isFinite_of_ofChars? hx
      | binary _ _ hleft hright => exact ⟨hleft.holdsFinite, hright.holdsFinite⟩

namespace Grid

theorem isFinite_of_numberAt? {g : Grid} {a : Address} {x : Number} (h : g.numberAt? a = some x) :
    x.isFinite = true :=
  Number.isFinite_of_ofChars? h

/-- An operand is worth a finite number, whatever the grid. -/
theorem isFinite_number (g : Grid) {o : Operand} (h : o.HoldsFinite) :
    (g.number o).isFinite = true := by
  cases o with
  | reference r =>
      simp only [number]
      cases hx : r.address?.bind g.numberAt? with
      | none => rfl
      | some x =>
          rcases Option.bind_eq_some_iff.mp hx with ⟨a, -, ha⟩
          exact isFinite_of_numberAt? ha
  | number x => exact h
  | invalid t => rfl

theorem isFinite_of_mem_numbers {g : Grid} {corners : Corners} :
    ∀ x ∈ g.numbers corners, x.isFinite = true := by
  intro x hx
  rw [numbers_eq_filterMap_scan, List.mem_filterMap] at hx
  rcases hx with ⟨a, -, ha⟩
  exact isFinite_of_numberAt? ha

/-- A range has no more numbers than cells, and a word can count those. -/
theorem length_numbers_le (g : Grid) (corners : Corners) :
    (g.numbers corners).length ≤ Nat.pow 2 64 := by
  have hscan : (g.scan corners).length ≤ Nat.pow 2 64 := by
    rw [scan]
    cases hr : g.clipped corners with
    | none => exact Nat.zero_le _
    | some r =>
        have hcountable := countable_of_clipped hr
        have hcount := UInt64.toNat_lt r.cellCount
        simp only [hcountable.cells_eq_map_place, List.length_map, List.length_range]
        rw [← hcountable.toNat_cellCount]
        exact Nat.le_of_lt hcount
  rw [numbers_eq_filterMap_scan]
  exact Nat.le_trans (List.length_filterMap_le _ _) hscan

/-- What makes a formula infinite, with this sign: an operation on finite numbers
    that overflows, or a step of a running sum that does. -/
inductive OverflowsIn (g : Grid) (negative : Bool) : Formula → Prop where
  | operation {op : Operator} {left right : Operand} (hleft : (g.number left).isFinite = true)
      (hright : (g.number right).isFinite = true)
      (hdiv : op = .div → (g.number right).isZero = false)
      (h : Overflows (op.exact (g.number left).exact (g.number right).exact) negative) :
      OverflowsIn g negative (.binary op left right)
  | sum {f : Aggregate} {corners : Corners} (hf : f = .sum ∨ f = .avg)
      (h : Aggregate.RunningOverflow negative (g.numbers corners)) :
      OverflowsIn g negative (.aggregate f corners)

/-- An operation on finite numbers is never NaN, since a division by zero is a
    fault, and infinite exactly when it overflows. -/
theorem binary_outcome (g : Grid) {op : Operator} {left right : Operand}
    (hleft : left.HoldsFinite) (hright : right.HoldsFinite) :
    op.apply (g.number left) (g.number right) ≠ .number .nan ∧
      ∀ negative, op.apply (g.number left) (g.number right) = .number (.infinity negative) ↔
        g.OverflowsIn negative (.binary op left right) := by
  have hl := g.isFinite_number hleft
  have hr := g.isFinite_number hright
  by_cases hdiv : op = .div → (g.number right).isZero = false
  · rcases Operator.rounds_apply hl hr hdiv with ⟨z, hz, hrounds⟩
    rw [hz, ne_eq, Value.number.injEq]
    refine ⟨hrounds.isRounded.ne_nan, fun negative => ?_⟩
    rw [Value.number.injEq, hrounds.isRounded.eq_infinity_iff]
    refine ⟨fun h => .operation hl hr hdiv h, fun h => ?_⟩
    cases h with
    | operation _ _ _ h => exact h
  · -- The one operation without a result is a fault, not a number.
    rw [Classical.not_imp, Bool.not_eq_false] at hdiv
    rcases hdiv with ⟨rfl, hzero⟩
    have hfault : Operator.apply .div (g.number left) (g.number right) =
        .fault .divisionByZero := if_pos hzero
    rw [hfault]
    refine ⟨by simp only [ne_eq, reduceCtorEq, not_false_eq_true], fun negative => ?_⟩
    refine iff_of_false (by simp only [reduceCtorEq, not_false_eq_true]) fun h => ?_
    cases h with
    | operation _ _ hdiv => exact absurd ((hdiv rfl).symm.trans hzero) Bool.false_ne_true

/-- An aggregate of finite numbers is never NaN, and infinite exactly when it
    overflows. -/
theorem aggregate_outcome (g : Grid) (f : Aggregate) (corners : Corners) :
    f.apply (g.numbers corners) ≠ .nan ∧
      ∀ negative, f.apply (g.numbers corners) = .infinity negative ↔
        g.OverflowsIn negative (.aggregate f corners) := by
  rcases Aggregate.apply_outcome f isFinite_of_mem_numbers (g.length_numbers_le corners) with
    ⟨hnan, hinfinity⟩
  refine ⟨hnan, fun negative => (hinfinity negative).trans ⟨fun h => .sum h.1 h.2, fun h => ?_⟩⟩
  cases h with
  | sum hf h => exact ⟨hf, h⟩

/-- No formula with finite operands is worth NaN, and the infinite ones are
    those that overflow. -/
theorem valueOf_outcome (g : Grid) {formula : Formula} (hformula : formula.HoldsFinite) :
    g.valueOf formula ≠ .number .nan ∧
      ∀ negative, g.valueOf formula = .number (.infinity negative) ↔
        g.OverflowsIn negative formula := by
  cases formula with
  | literal t =>
      have hvalue : g.valueOf (.literal t) = .text t := rfl
      rw [hvalue]
      refine ⟨by simp only [ne_eq, reduceCtorEq, not_false_eq_true], fun negative => ?_⟩
      exact iff_of_false (by simp only [reduceCtorEq, not_false_eq_true]) fun h => nomatch h
  | number x =>
      have hvalue : g.valueOf (.number x) = .number x := rfl
      rcases Number.ne_of_isFinite hformula with ⟨hnan, hinfinity⟩
      simp only [hvalue, ne_eq, Value.number.injEq]
      exact ⟨hnan, fun negative => iff_of_false (hinfinity negative) fun h => nomatch h⟩
  | aggregate f corners =>
      have hvalue : g.valueOf (.aggregate f corners) = .number (f.apply (g.numbers corners)) := rfl
      simp only [hvalue, ne_eq, Value.number.injEq]
      exact g.aggregate_outcome f corners
  | binary op left right => exact g.binary_outcome hformula.1 hformula.2

theorem value_of_ok (g : Grid) {text : String} {formula : Formula}
    (h : Formula.ofText text = .ok formula) : g.value text = g.valueOf formula := by
  rw [value, h]

/-- Every formula has a value. It is infinite exactly when an operation on two
    finite numbers overflows or a step of a running sum does, so neither a
    number nor an extremum is. -/
theorem value_overflow (g : Grid) (text : String) :
    g.value text ≠ .number .nan ∧
      (∀ x, Formula.ofText text = .ok (.number x) →
        g.value text = .number x ∧ x.isFinite = true) ∧
      (∀ f corners, Formula.ofText text = .ok (.aggregate f corners) → f = .min ∨ f = .max →
        ∃ x, g.value text = .number x ∧ x.isFinite = true) ∧
      ∀ negative, g.value text = .number (.infinity negative) ↔
        ∃ formula, Formula.ofText text = .ok formula ∧ g.OverflowsIn negative formula := by
  have hnumber : ∀ x, Formula.ofText text = .ok (.number x) →
      g.value text = .number x ∧ x.isFinite = true :=
    fun x h => ⟨g.value_of_ok h, Formula.holdsFinite_of_ofText h⟩
  have hextremum : ∀ f corners, Formula.ofText text = .ok (.aggregate f corners) →
      f = .min ∨ f = .max → ∃ x, g.value text = .number x ∧ x.isFinite = true :=
    fun f corners h hf =>
      ⟨_, g.value_of_ok h, Aggregate.isFinite_extremum hf isFinite_of_mem_numbers⟩
  cases hok : Formula.ofText text with
  | ok formula =>
      rcases g.valueOf_outcome (Formula.holdsFinite_of_ofText hok) with ⟨hnan, hinfinity⟩
      rw [hok] at hnumber hextremum
      rw [g.value_of_ok hok] at hnumber hextremum ⊢
      refine ⟨hnan, hnumber, hextremum, fun negative => ?_⟩
      simp only [hinfinity, Except.ok.injEq, exists_eq_left']
  | error e =>
      have hvalue : g.value text = .fault .invalid := by
        rw [value, hok]
      rw [hok] at hnumber hextremum
      rw [hvalue] at hnumber hextremum ⊢
      refine ⟨by simp only [ne_eq, reduceCtorEq, not_false_eq_true], hnumber, hextremum, ?_⟩
      simp only [reduceCtorEq, false_and, exists_false, implies_true]

/-- A running sum that overflows at its second term and does not come back at its
    third, the least of its terms, and a number that is almost as large. -/
theorem value_overflow_running :
    let g : Grid := ⟨fun a => if a = ⟨0, 0⟩ ∨ a = ⟨1, 0⟩ then "1e308" else "-1e308", some (3, 1)⟩
    (g.value "=SUM(A1:A3)" = .number (.infinity false) ∧
      ∃ formula, Formula.ofText "=SUM(A1:A3)" = .ok formula ∧ g.OverflowsIn false formula) ∧
    (Formula.ofText "=MIN(A1:A3)" = .ok (.aggregate .min ⟨⟨1, 1⟩, ⟨1, 3⟩⟩) ∧
      ∃ x, g.value "=MIN(A1:A3)" = .number x ∧ x.isFinite = true) ∧
    Formula.ofText "=1e308" = .ok (.number (.ofDecimal false ⟨1, 308⟩)) ∧
      g.value "=1e308" = .number (.ofDecimal false ⟨1, 308⟩) := by
  intro g
  have hsum : g.value "=SUM(A1:A3)" = .number (.infinity false) := by decide +kernel
  have hmin : Formula.ofText "=MIN(A1:A3)" = .ok (.aggregate .min ⟨⟨1, 1⟩, ⟨1, 3⟩⟩) :=
    Attempt.toOption_eq_some_iff.mp (by decide +kernel)
  have hnumber : Formula.ofText "=1e308" = .ok (.number (.ofDecimal false ⟨1, 308⟩)) :=
    Attempt.toOption_eq_some_iff.mp (by decide +kernel)
  exact ⟨⟨hsum, ((g.value_overflow "=SUM(A1:A3)").2.2.2 false).mp hsum⟩,
    ⟨hmin, (g.value_overflow "=MIN(A1:A3)").2.2.1 _ _ hmin (.inl rfl)⟩,
    hnumber, ((g.value_overflow "=1e308").2.1 _ hnumber).1⟩

end Grid

end Worksheet
