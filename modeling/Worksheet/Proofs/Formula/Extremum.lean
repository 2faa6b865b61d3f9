import Worksheet.Formula.Aggregate
import Worksheet.Proofs.Number.Overflow

/-!
# Extrema

What the least and the greatest of some numbers are.

An extremum is found by going through the numbers and keeping the better one
of two. At the start there is no number yet, and an infinite one that every
finite number is better than stands in for it; it is given up at the first
step and never comes back. From then on the number that is kept is one of
those gone through, and none of them is better.

Two numbers with this property, for lists that differ in order only, are
neither of them better than the other, so they have the same value. That
leaves no choice but the sign of a zero, which does depend on the order.

## Main definitions

* `Aggregate.Chooses`: A way to keep the better one of two numbers.
* `Aggregate.IsExtremum`: A number is the best one of a list.
* `Aggregate.Gives`: What each function makes of a list.

## Theorems

* `Number.lt_iff_exact_lt`: Finite numbers are compared by their values.
* `Number.eq_or_isZero_of_exact_eq`: Only zeros have the same value and are not
  the same.
* `Aggregate.Chooses.isExtremum_step`, `Aggregate.Chooses.isExtremum_foldl`:
  Keeping the better one, once and along a list.
* `Aggregate.gives_apply`: What is computed is what a function should give.
* `Aggregate.extrema_of_finite`: The least and the greatest of finite numbers.
-/

namespace Worksheet

namespace Number

variable {x y : Number}

/-- Finite numbers are compared by their values. -/
theorem lt_iff_exact_lt (hx : x.isFinite = true) (hy : y.isFinite = true) :
    x.lt y = true ↔ x.exact < y.exact := by
  rcases isFinite_iff.mp hx with ⟨a, m, rfl⟩
  rcases isFinite_iff.mp hy with ⟨b, n, rfl⟩
  rw [lt, decide_eq_true_iff, exact, exact, div_lt_div_iff_of_pos_right Decimal.unitsOfOne_pos,
    Int.cast_lt]

/-- Of two finite numbers the smaller is told by their exact values. -/
theorem smaller_of_isFinite (hx : x.isFinite = true) (hy : y.isFinite = true) :
    smaller x y = if x.exact < y.exact then x else y := by
  simp only [smaller, (ne_of_isFinite hy).1, false_or, lt_iff_exact_lt hx hy]

/-- Of two finite numbers the larger is told by their exact values. -/
theorem larger_of_isFinite (hx : x.isFinite = true) (hy : y.isFinite = true) :
    larger x y = if y.exact < x.exact then x else y := by
  simp only [larger, (ne_of_isFinite hy).1, false_or, lt_iff_exact_lt hy hx]

/-- The start of a minimum gives way to the first finite number. -/
theorem smaller_start (hy : y.isFinite = true) : smaller (.infinity false) y = y := by
  rcases isFinite_iff.mp hy with ⟨b, n, rfl⟩
  exact if_neg (by simp only [reduceCtorEq, lt, Bool.false_eq_true, or_self, not_false_eq_true])

/-- The start of a maximum gives way to the first finite number. -/
theorem larger_start (hy : y.isFinite = true) : larger (.infinity true) y = y := by
  rcases isFinite_iff.mp hy with ⟨b, n, rfl⟩
  exact if_neg (by simp only [reduceCtorEq, lt, Bool.not_true, Bool.false_eq_true, or_self,
    not_false_eq_true])

/-- Numbers with the same value are the same, unless both are zero. -/
theorem eq_or_isZero_of_exact_eq (hx : x.isFinite = true) (hy : y.isFinite = true)
    (h : x.exact = y.exact) : x = y ∨ (x.isZero = true ∧ y.isZero = true) := by
  rcases isFinite_iff.mp hx with ⟨a, m, rfl⟩
  rcases isFinite_iff.mp hy with ⟨b, n, rfl⟩
  have hunits : m.units = n.units := by
    have habs := congrArg abs h
    rwa [abs_exact_finite, abs_exact_finite, div_left_inj' Decimal.unitsOfOne_pos.ne',
      Nat.cast_inj] at habs
  by_cases hzero : m.units = 0
  · exact .inr ⟨decide_eq_true hzero, decide_eq_true (hunits ▸ hzero)⟩
  · -- The sign of what is not zero can be told from its value.
    have hsign : a = b := by
      rw [Bool.eq_iff_iff, ← exact_finite_neg_iff hzero, h, exact_finite_neg_iff (hunits ▸ hzero)]
    rcases m with ⟨i, hi⟩
    rcases n with ⟨j, hj⟩
    rw [finite.injEq, Magnitude.mk.injEq]
    exact .inl ⟨hsign, hunits⟩

end Number

namespace Aggregate

/-- Of two finite numbers one is chosen that comes first in an order of values,
    and each of them is chosen over the start. -/
structure Chooses (choose : Number → Number → Number) (start : Number) (le : ℚ → ℚ → Prop) :
    Prop where
  /-- The start gives way to every finite number. -/
  start : ∀ {y}, y.isFinite = true → choose start y = y
  /-- A number is only chosen if the other one does not come before it. -/
  step : ∀ {x y}, x.isFinite = true → y.isFinite = true →
    (choose x y = x ∧ le x.exact y.exact) ∨ (choose x y = y ∧ le y.exact x.exact)

/-- The number is one of a list, and in an order of values it comes first. -/
structure IsExtremum (le : ℚ → ℚ → Prop) (z : Number) (xs : List Number) : Prop where
  /-- It is one of them. -/
  mem : z ∈ xs
  /-- It comes before each of them. -/
  first : ∀ x ∈ xs, le z.exact x.exact

/-- What a function makes of some numbers: zero of none, the sum from left to
    right, the sum divided by their count, the least or the greatest. -/
inductive Gives (xs : List Number) : Aggregate → Number → Prop where
  /-- Without numbers all functions are zero. -/
  | zero (f : Aggregate) (h : xs = []) : Gives xs f (.zero false)
  /-- The sum begins with zero. -/
  | sum (h : xs ≠ []) : Gives xs .sum (xs.foldl (· + ·) (.zero false))
  /-- The average is the same sum, divided by the number of numbers. -/
  | avg (h : xs ≠ []) : Gives xs .avg (xs.foldl (· + ·) (.zero false) / .ofNat xs.length)
  /-- The least number is one of them. -/
  | min {x : Number} (h : IsExtremum (· ≤ ·) x xs) : Gives xs .min x
  /-- So is the greatest. -/
  | max {x : Number} (h : IsExtremum (· ≥ ·) x xs) : Gives xs .max x

/-- The minimum chooses between two numbers by their exact values. -/
theorem chooses_smaller : Chooses Number.smaller (.infinity false) (· ≤ ·) where
  start := Number.smaller_start
  step := by
    intro x y hx hy
    rw [Number.smaller_of_isFinite hx hy]
    split_ifs with hlt
    · exact .inl ⟨rfl, hlt.le⟩
    · exact .inr ⟨rfl, not_lt.mp hlt⟩

/-- The maximum chooses between two numbers by their exact values. -/
theorem chooses_larger : Chooses Number.larger (.infinity true) (· ≥ ·) where
  start := Number.larger_start
  step := by
    intro x y hx hy
    rw [Number.larger_of_isFinite hx hy]
    split_ifs with hlt
    · exact .inl ⟨rfl, hlt.le⟩
    · exact .inr ⟨rfl, not_lt.mp hlt⟩

section Order

variable {le : ℚ → ℚ → Prop} {z : Number} {xs : List Number}

section Choice

variable [IsPreorder ℚ le] {choose : Number → Number → Number} {start : Number}

/-- The better one of the best number so far and the next one is the best so
    far. -/
theorem Chooses.isExtremum_step (hc : Chooses choose start le) (hz : IsExtremum le z xs)
    (hxs : ∀ x ∈ xs, x.isFinite = true) {y : Number} (hy : y.isFinite = true) :
    IsExtremum le (choose z y) (xs ++ [y]) := by
  rcases hc.step (hxs z hz.mem) hy with ⟨hkeep, hle⟩ | ⟨htake, hle⟩
  · rw [hkeep]
    refine ⟨List.mem_append_left _ hz.mem, ?_⟩
    rw [List.forall_mem_append, List.forall_mem_singleton]
    exact ⟨hz.first, hle⟩
  · rw [htake]
    refine ⟨List.mem_append_right _ (List.mem_singleton_self y), ?_⟩
    rw [List.forall_mem_append, List.forall_mem_singleton]
    exact ⟨fun x hx => trans_of le hle (hz.first x hx), refl y.exact⟩

/-- What is kept along a list of finite numbers is the best of them. -/
theorem Chooses.isExtremum_foldl (hc : Chooses choose start le) (hne : xs ≠ [])
    (hxs : ∀ x ∈ xs, x.isFinite = true) : IsExtremum le (xs.foldl choose start) xs := by
  induction xs using List.reverseRecOn with
  | nil => exact absurd rfl hne
  | append_singleton xs y ih =>
      rw [List.forall_mem_append, List.forall_mem_singleton] at hxs
      rw [List.foldl_append, List.foldl_cons, List.foldl_nil]
      by_cases hnil : xs = []
      · -- The first number of all takes the place of the start.
        rw [hnil, List.foldl_nil, hc.start hxs.2, List.nil_append]
        refine ⟨List.mem_singleton_self y, ?_⟩
        rw [List.forall_mem_singleton]
        exact refl y.exact
      · exact hc.isExtremum_step (ih hnil hxs.1) hxs.1 hxs.2

end Choice

/-- Two numbers that come first among the same numbers come before each
    other. -/
theorem IsExtremum.exact_eq [IsPartialOrder ℚ le] {z' : Number} {ys : List Number}
    (h : IsExtremum le z xs) (h' : IsExtremum le z' ys) (hmem : ∀ x, x ∈ xs ↔ x ∈ ys) :
    z.exact = z'.exact :=
  antisymm_of le (h.first z' ((hmem z').mpr h'.mem)) (h'.first z ((hmem z).mp h.mem))

/-- The best number of a list depends on its order only in the sign of a zero. -/
theorem IsExtremum.eq_or_isZero [IsPartialOrder ℚ le] {z' : Number} {ys : List Number}
    (h : IsExtremum le z xs) (h' : IsExtremum le z' ys) (hperm : xs.Perm ys)
    (hxs : ∀ x ∈ xs, x.isFinite = true) : z = z' ∨ (z.isZero = true ∧ z'.isZero = true) :=
  Number.eq_or_isZero_of_exact_eq (hxs z h.mem) (hxs z' (hperm.mem_iff.mpr h'.mem))
    (h.exact_eq h' fun _ => hperm.mem_iff)

end Order

/-- `MIN` of a list of finite numbers is a member of the list and below all of
    them. -/
theorem isExtremum_min {xs : List Number} (hne : xs ≠ []) (hxs : ∀ x ∈ xs, x.isFinite = true) :
    IsExtremum (· ≤ ·) (min.apply xs) xs := by
  rw [apply, if_neg (mt List.isEmpty_iff.mp hne)]
  exact chooses_smaller.isExtremum_foldl hne hxs

/-- `MAX` of a list of finite numbers is a member of the list and above all of
    them. -/
theorem isExtremum_max {xs : List Number} (hne : xs ≠ []) (hxs : ∀ x ∈ xs, x.isFinite = true) :
    IsExtremum (· ≥ ·) (max.apply xs) xs := by
  rw [apply, if_neg (mt List.isEmpty_iff.mp hne)]
  exact chooses_larger.isExtremum_foldl hne hxs

/-- The functions give what they should of finite numbers. -/
theorem gives_apply (f : Aggregate) {xs : List Number} (hxs : ∀ x ∈ xs, x.isFinite = true) :
    Gives xs f (f.apply xs) := by
  by_cases hnil : xs = []
  · subst hnil
    exact .zero f rfl
  · have hne : ¬ xs.isEmpty = true := mt List.isEmpty_iff.mp hnil
    cases f with
    | sum =>
        rw [apply, if_neg hne]
        exact .sum hnil
    | avg =>
        rw [apply, if_neg hne]
        exact .avg hnil
    | min => exact .min (isExtremum_min hnil hxs)
    | max => exact .max (isExtremum_max hnil hxs)

/-- The least of some finite numbers is one of them, and none of them is less;
    the greatest is one of them, and none is greater. In another order they are
    the same, or they are zeros both times. -/
theorem extrema_of_finite {xs : List Number} (hne : xs ≠ [])
    (hxs : ∀ x ∈ xs, x.isFinite = true) :
    (min.apply xs ∈ xs ∧ ∀ x ∈ xs, (min.apply xs).exact ≤ x.exact) ∧
      (max.apply xs ∈ xs ∧ ∀ x ∈ xs, x.exact ≤ (max.apply xs).exact) ∧
      ∀ ys, xs.Perm ys → ∀ f, f = min ∨ f = max →
        f.apply xs = f.apply ys ∨ ((f.apply xs).isZero = true ∧ (f.apply ys).isZero = true) := by
  have hmin := isExtremum_min hne hxs
  have hmax := isExtremum_max hne hxs
  refine ⟨⟨hmin.mem, hmin.first⟩, ⟨hmax.mem, hmax.first⟩, fun ys hperm f hf => ?_⟩
  have hne' : ys ≠ [] := fun hnil => hne (List.Perm.eq_nil (hnil ▸ hperm))
  have hys : ∀ y ∈ ys, y.isFinite = true := fun y hy => hxs y (hperm.mem_iff.mpr hy)
  rcases hf with rfl | rfl
  · exact hmin.eq_or_isZero (isExtremum_min hne' hys) hperm hxs
  · exact hmax.eq_or_isZero (isExtremum_max hne' hys) hperm hxs

/-- Both zeros and a number above them, in two orders: the least is a zero both
    times, whichever of the two it is. -/
theorem extrema_of_finite_zeros :
    let xs := [Number.ofNat 5, .zero true, .zero false]
    let ys := [Number.zero false, .ofNat 5, .zero true]
    xs ≠ [] ∧ (∀ x ∈ xs, x.isFinite = true) ∧ xs.Perm ys ∧
      ((min.apply xs).isZero = true ∧ ∀ x ∈ xs, (min.apply xs).exact ≤ x.exact) ∧
      (max.apply xs = .ofNat 5 ∧ ∀ x ∈ xs, x.exact ≤ (Number.ofNat 5).exact) ∧
      (min.apply ys).isZero = true ∧ max.apply ys = .ofNat 5 := by
  intro xs ys
  have hxs : ∀ x ∈ xs, x.isFinite = true := by decide +kernel
  have hperm : xs.Perm ys := by decide +kernel
  have hmin : (min.apply xs).isZero = true := by decide +kernel
  have hmax : max.apply xs = .ofNat 5 := by decide +kernel
  rcases extrema_of_finite (List.cons_ne_nil _ _) hxs with ⟨hleast, hgreatest, horder⟩
  rw [hmax] at hgreatest
  have hmin' : (min.apply ys).isZero = true := by
    rcases horder ys hperm min (.inl rfl) with h | h
    · rw [← h, hmin]
    · exact h.2
  have hmax' : max.apply ys = .ofNat 5 := by
    rcases horder ys hperm max (.inr rfl) with h | h
    · rw [← h, hmax]
    · exact absurd h.1 (by decide +kernel)
  exact ⟨List.cons_ne_nil _ _, hxs, hperm, ⟨hmin, hleast.2⟩, ⟨hmax, hgreatest.2⟩, hmin', hmax'⟩

end Aggregate

end Worksheet
