import Mathlib.Data.Set.Insert
import Mathlib.Data.UInt
import Worksheet.Range.Basic

/-!
# The Hull of Some Cells

The least range that holds every cell of a set.

`IsHull` says it without naming the set's extremes: the range has its corners
in order, it holds the set, and every range that holds the set holds all of
it. Two ranges with these properties hold each other, so there is at most one,
and with it everything that is computed from the cells in some order is
independent of the order.

Covering one more cell turns the hull of a set into the hull of a larger one.
Folding that over a list therefore gives the hull of the cells in the list,
with nothing said about order or repetition.

## Main definitions

* `Range.IsHull`: The range is the least one that holds a set of cells.

## Theorems

* `contains_iff`: The cells of a range, by bounds.
* `IsHull.unique`: A set has at most one hull.
* `isHull_single`, `IsHull.cover`: The hull of one cell, and of one more.
* `isHull_foldl_cover`: Covering the cells of a list gives their hull.
* `Normal.eq_of_contains_iff`: Ranges in order with the same cells are the same.
* `IsHull.nonempty`: Only a set with a cell in it has a hull.
-/

namespace Worksheet

namespace Range

theorem contains_iff (r : Range) (a : Address) : r.contains a = true ↔
    (r.first.row ≤ a.row ∧ a.row ≤ r.last.row) ∧ r.first.col ≤ a.col ∧ a.col ≤ r.last.col := by
  simp only [contains, Bool.and_eq_true, decide_eq_true_eq, and_assoc]

/-- The range is the least one that holds a set of cells. -/
structure IsHull (r : Range) (cells : Set Address) : Prop where
  /-- The corners are in order. -/
  normal : r.Normal
  /-- Every cell of the set lies in the range. -/
  holds : ∀ a ∈ cells, r.contains a = true
  /-- The range lies in every other one that holds the set. -/
  least : ∀ r' : Range, (∀ a ∈ cells, r'.contains a = true) →
    ∀ a, r.contains a = true → r'.contains a = true

theorem Normal.contains_first {r : Range} (h : r.Normal) : r.contains r.first = true :=
  (contains_iff r r.first).mpr ⟨⟨UInt32.le_refl _, h.1⟩, UInt32.le_refl _, h.2⟩

theorem Normal.contains_last {r : Range} (h : r.Normal) : r.contains r.last = true :=
  (contains_iff r r.last).mpr ⟨⟨h.1, UInt32.le_refl _⟩, h.2, UInt32.le_refl _⟩

/-- A set has at most one hull. -/
theorem IsHull.unique {r r' : Range} {cells : Set Address} (h : r.IsHull cells)
    (h' : r'.IsHull cells) : r = r' := by
  -- Each of the two holds the corners of the other.
  have hfirst := (contains_iff r' _).mp (h.least r' h'.holds _ h.normal.contains_first)
  have hlast := (contains_iff r' _).mp (h.least r' h'.holds _ h.normal.contains_last)
  have hfirst' := (contains_iff r _).mp (h'.least r h.holds _ h'.normal.contains_first)
  have hlast' := (contains_iff r _).mp (h'.least r h.holds _ h'.normal.contains_last)
  rcases r with ⟨⟨r1, c1⟩, ⟨r2, c2⟩⟩
  rcases r' with ⟨⟨r1', c1'⟩, ⟨r2', c2'⟩⟩
  simp only [mk.injEq, Address.mk.injEq]
  -- Corners that lie between each other are equal.
  exact ⟨⟨UInt32.le_antisymm hfirst'.1.1 hfirst.1.1, UInt32.le_antisymm hfirst'.2.1 hfirst.2.1⟩,
    ⟨UInt32.le_antisymm hlast.1.2 hlast'.1.2, UInt32.le_antisymm hlast.2.2 hlast'.2.2⟩⟩

/-- Of a range only its cells matter, since it is their hull. -/
theorem Normal.eq_of_contains_iff {r r' : Range} (h : r.Normal) (h' : r'.Normal)
    (hcells : ∀ a, r.contains a = true ↔ r'.contains a = true) : r = r' := by
  have hull : r.IsHull {a | r.contains a = true} := ⟨h, fun a ha => ha, fun _ hr a ha => hr a ha⟩
  refine hull.unique ⟨h', fun a ha => (hcells a).mp ha, fun _ hr a ha => ?_⟩
  exact hr a ((hcells a).mpr ha)

/-- No range lies in every other one, so the empty set has no hull. -/
theorem IsHull.nonempty {r : Range} {cells : Set Address} (h : r.IsHull cells) :
    cells.Nonempty := by
  by_contra hc
  have hnone : ∀ r' : Range, ∀ a ∈ cells, r'.contains a = true :=
    fun r' a ha => absurd ⟨a, ha⟩ hc
  -- The first corner would have to be each of two different cells.
  have h0 := (contains_iff _ _).mp
    (h.least (single ⟨0, 0⟩) (hnone _) _ h.normal.contains_first)
  have h1 := (contains_iff _ _).mp
    (h.least (single ⟨1, 1⟩) (hnone _) _ h.normal.contains_first)
  simp only [single, UInt32.le_iff_toNat_le, UInt32.toNat_zero, UInt32.toNat_one] at h0 h1
  omega

theorem isHull_single (a : Address) : (single a).IsHull {a} where
  normal := ⟨UInt32.le_refl _, UInt32.le_refl _⟩
  holds := by
    intro b hb
    rw [Set.mem_singleton_iff.mp hb]
    exact Normal.contains_first (r := single a) ⟨UInt32.le_refl _, UInt32.le_refl _⟩
  least := by
    intro r' hr' b hb
    have hab : b = a := by
      have hb' := (contains_iff _ _).mp hb
      rcases a with ⟨row, col⟩
      rcases b with ⟨row', col'⟩
      simp only [single] at hb'
      rw [UInt32.le_antisymm hb'.1.2 hb'.1.1, UInt32.le_antisymm hb'.2.2 hb'.2.1]
    rw [hab]
    exact hr' a (Set.mem_singleton a)

/-- To cover one more cell is to take the hull with the cell. -/
theorem IsHull.cover {r : Range} {cells : Set Address} (h : r.IsHull cells) (a : Address) :
    (r.cover a).IsHull (insert a cells) where
  normal := by
    have hn := h.normal
    simp only [Normal, Range.cover, UInt32.le_iff_toNat_le, UInt32.toNat_min,
      UInt32.toNat_max] at hn ⊢
    omega
  holds := by
    intro b hb
    rcases Set.mem_insert_iff.mp hb with rfl | hmem
    · simp only [contains_iff, Range.cover, UInt32.le_iff_toNat_le, UInt32.toNat_min,
        UInt32.toNat_max]
      omega
    · have hold := h.holds b hmem
      simp only [contains_iff, Range.cover, UInt32.le_iff_toNat_le, UInt32.toNat_min,
        UInt32.toNat_max] at hold ⊢
      omega
  least := by
    -- A cell of the larger range lies between the old corners and the new cell,
    -- and whoever holds the larger set holds those.
    intro r' hr' b hb
    have hset : ∀ c ∈ cells, r'.contains c = true :=
      fun c hc => hr' c (Set.mem_insert_of_mem a hc)
    have hfirst := h.least r' hset _ h.normal.contains_first
    have hlast := h.least r' hset _ h.normal.contains_last
    have hnew := hr' a (Set.mem_insert a cells)
    simp only [contains_iff, Range.cover, UInt32.le_iff_toNat_le, UInt32.toNat_min,
      UInt32.toNat_max] at hfirst hlast hnew hb ⊢
    omega

/-- Covering the cells of a list one after the other gives their hull. -/
theorem IsHull.foldl_cover (rest : List Address) :
    ∀ (r : Range) (cells : Set Address), r.IsHull cells →
      (rest.foldl Range.cover r).IsHull (cells ∪ {b | b ∈ rest}) := by
  -- The range so far is the hull of the cells so far, whichever they were.
  induction rest with
  | nil =>
      intro r cells h
      have hset : cells ∪ {b | b ∈ ([] : List Address)} = cells := by
        ext b
        simp only [List.not_mem_nil, Set.mem_union, Set.mem_ofPred_eq, or_false]
      rw [List.foldl_nil, hset]
      exact h
  | cons a rest ih =>
      intro r cells h
      have hset : cells ∪ {b | b ∈ a :: rest} = insert a cells ∪ {b | b ∈ rest} := by
        ext b
        simp only [List.mem_cons, Set.mem_union, Set.mem_ofPred_eq, Set.mem_insert_iff]
        rw [or_left_comm, or_assoc]
      rw [List.foldl_cons, hset]
      exact ih (r.cover a) (insert a cells) (h.cover a)

/-- Covering cells one after the other gives their hull, by induction on the
    cells. -/
theorem isHull_foldl_cover (a : Address) (rest : List Address) :
    (rest.foldl Range.cover (single a)).IsHull {b | b ∈ a :: rest} := by
  have hset : ({a} : Set Address) ∪ {b | b ∈ rest} = {b | b ∈ a :: rest} := by
    ext b
    simp only [Set.mem_union, Set.mem_singleton_iff, Set.mem_ofPred_eq, List.mem_cons]
  rw [← hset]
  exact IsHull.foldl_cover rest (single a) {a} (isHull_single a)

end Range

end Worksheet
