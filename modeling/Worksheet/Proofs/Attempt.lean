import Mathlib.Data.List.Forall2
import Mathlib.Tactic.ByContra

/-!
# Attempts

What the success of a computation that can fail says about its parts.

Every reader of the library is a chain of steps that can fail, or a fold of
such a step over a list. The lemmas take a success apart into the successes it
consists of, so that a proof about a reader talks about its steps and never
about the plumbing between them.

A list of steps fails with the first step that does. Where what is wrong with
an item can be told from the item alone, whatever was done before it, this is
the first item with something wrong, and `FirstFault` says so by its place.

## Main definitions

* `FirstFault`: What is wrong with the first item that has something wrong.

## Theorems

* `bind_eq_ok_iff`, `map_eq_ok_iff`, `mapError_eq_ok_iff`: A success and its
  parts.
* `exists_of_isOk`: A success has a result.
* `eq_none_iff_of_eq_some_iff`: No success is the absence of results.
* `mapError_bind`: Errors of a chain and of its parts.
* `foldlM_preserves`: What every step of a fold preserves holds at its end.
* `foldlM_map`: A fold whose steps can only fail to read their item.
* `exists_mapM`: A list whose items can be read can be read.
* `mapM_eq_ok_iff`, `mapM_eq_error_iff`: What a list is read as, and which of
  its items it fails with.
* `foldlM_eq_error_iff`: Which of its items a fold fails with.
-/

namespace Worksheet

namespace Attempt

variable {ε ε' α β γ : Type}

/-- Two steps succeed when both do. -/
theorem bind_eq_ok_iff {x : Except ε α} {f : α → Except ε β} {b : β} :
    x >>= f = .ok b ↔ ∃ a, x = .ok a ∧ f a = .ok b := by
  rcases x with e | a
  · simp only [bind, Except.bind, reduceCtorEq, false_and, exists_false]
  · simp only [bind, Except.bind, Except.ok.injEq, exists_eq_left']

/-- Two steps fail with the first of them that fails. -/
theorem bind_eq_error_iff {x : Except ε α} {f : α → Except ε β} {e : ε} :
    x >>= f = .error e ↔ x = .error e ∨ ∃ a, x = .ok a ∧ f a = .error e := by
  rcases x with e' | a
  · simp only [bind, Except.bind, Except.error.injEq, reduceCtorEq, false_and, exists_false,
      or_false]
  · simp only [bind, Except.bind, Except.ok.injEq, exists_eq_left', reduceCtorEq, false_or]

theorem map_eq_ok_iff {x : Except ε α} {f : α → β} {b : β} :
    x.map f = .ok b ↔ ∃ a, x = .ok a ∧ f a = b := by
  rcases x with e | a
  · simp only [Except.map, reduceCtorEq, false_and, exists_false]
  · simp only [Except.map, Except.ok.injEq, exists_eq_left']

theorem mapError_ok (a : α) (f : ε → ε') : (Except.ok a).mapError f = .ok a :=
  rfl

/-- Renaming an error does not turn it into a result. -/
theorem mapError_eq_ok_iff {x : Except ε α} {f : ε → ε'} {a : α} :
    x.mapError f = .ok a ↔ x = .ok a := by
  rcases x with e | a'
  · exact ⟨fun h => absurd h (by rintro ⟨⟩), fun h => absurd h (by rintro ⟨⟩)⟩
  · rw [mapError_ok, Except.ok.injEq, Except.ok.injEq]

/-- A renamed error comes from an error. -/
theorem mapError_eq_error_iff {x : Except ε α} {f : ε → ε'} {e : ε'} :
    x.mapError f = .error e ↔ ∃ e', x = .error e' ∧ f e' = e := by
  rcases x with e' | a
  · have herror : (Except.error e' : Except ε α).mapError f = .error (f e') := rfl
    simp only [herror, Except.error.injEq, exists_eq_left']
  · simp only [mapError_ok, reduceCtorEq, false_and, exists_false]

/-- What has succeeded has a result. -/
theorem exists_of_isOk {x : Except ε α} (h : x.isOk = true) : ∃ a, x = .ok a := by
  rcases x with e | a
  · exact absurd h Bool.false_ne_true
  · exact ⟨a, rfl⟩

theorem toOption_eq_some_iff {x : Except ε α} {a : α} : x.toOption = some a ↔ x = .ok a := by
  rcases x with e | a'
  · simp only [Except.toOption, reduceCtorEq]
  · simp only [Except.toOption, Option.some.injEq, Except.ok.injEq]

/-- A reader has no result where every result is ruled out. -/
theorem eq_none_iff_of_eq_some_iff {x : Option α} {p : α → Prop} (h : ∀ a, x = some a ↔ p a) :
    x = none ↔ ∀ a, ¬ p a := by
  rw [Option.eq_none_iff_forall_ne_some]
  exact forall_congr' fun a => not_congr (h a)

/-- What is done to errors can be done once for a chain. -/
theorem mapError_bind (x : Except ε α) (f : α → Except ε β) (g : ε → ε') :
    (x >>= f).mapError g = x.mapError g >>= fun a => (f a).mapError g := by
  rcases x with e | a <;> rfl

/-- What every step of a fold preserves holds at its end. -/
theorem foldlM_preserves {f : β → α → Except ε β} {P : β → Prop}
    (hstep : ∀ b a b', P b → f b a = .ok b' → P b') :
    ∀ (l : List α) (b b' : β), P b → l.foldlM f b = .ok b' → P b' := by
  intro l
  induction l with
  | nil =>
      intro b b' hb h
      rw [List.foldlM_nil] at h
      cases h
      exact hb
  | cons a l ih =>
      intro b b' hb h
      rw [List.foldlM_cons, bind_eq_ok_iff] at h
      rcases h with ⟨c, hc, hrest⟩
      exact ih c b' (hstep b a c hb hc) hrest

/-- Every step of a fold that succeeds has succeeded. -/
theorem exists_of_foldlM {f : β → α → Except ε β} {l : List α} : ∀ {b b' : β},
    l.foldlM f b = .ok b' → ∀ a ∈ l, ∃ c c', f c a = .ok c' := by
  induction l with
  | nil => exact fun _ a ha => absurd ha List.not_mem_nil
  | cons a l ih =>
      intro b b' h
      rw [List.foldlM_cons, bind_eq_ok_iff] at h
      rcases h with ⟨c, hc, hrest⟩
      exact List.forall_mem_cons.mpr ⟨⟨b, c, hc⟩, ih hrest⟩

/-- Reading all items first changes nothing, not even which of them is the first
    to fail. -/
theorem foldlM_map (f : α → Except ε γ) (g : β → γ → β) (l : List α) : ∀ b,
    l.foldlM (fun b a => (f a).map (g b)) b = (l.mapM f).map fun cs => cs.foldl g b := by
  induction l with
  | nil => intro b; rfl
  | cons a l ih =>
      intro b
      rw [List.foldlM_cons, List.mapM_cons]
      rcases f a with e | c
      · rfl
      · refine (ih (g b c)).trans ?_
        rcases l.mapM f with e | cs <;> rfl

/-- If every member of a list has a result, the list has all of them. -/
theorem exists_mapM {f : α → Except ε β} (l : List α) (h : ∀ a ∈ l, ∃ b, f a = .ok b) :
    ∃ bs, l.mapM f = .ok bs ∧ ∀ b, b ∈ bs ↔ ∃ a ∈ l, f a = .ok b := by
  induction l with
  | nil =>
      refine ⟨[], rfl, fun b => ?_⟩
      simp only [List.not_mem_nil, false_and, exists_false]
  | cons a l ih =>
      rcases h a List.mem_cons_self with ⟨b, hb⟩
      rcases ih fun a' ha' => h a' (List.mem_cons_of_mem a ha') with ⟨bs, hbs, hmem⟩
      refine ⟨b :: bs, ?_, fun b' => ?_⟩
      · rw [List.mapM_cons, hb, hbs]
        rfl
      · rw [List.mem_cons, hmem, @eq_comm β b' b]
        simp only [List.mem_cons, exists_eq_or_imp, hb, Except.ok.injEq]

/-- The results of a list stand in the order of its members. -/
theorem mapM_eq_ok_iff {f : α → Except ε β} {l : List α} {bs : List β} :
    l.mapM f = .ok bs ↔ List.Forall₂ (fun a b => f a = .ok b) l bs := by
  induction l generalizing bs with
  | nil =>
      rw [List.mapM_nil, List.forall₂_nil_left_iff, eq_comm]
      exact ⟨Except.ok.inj, congrArg Except.ok⟩
  | cons a l ih =>
      simp only [List.mapM_cons, bind_eq_ok_iff, ih, List.forall₂_cons_left_iff]
      constructor
      · rintro ⟨b, hb, bs', hbs', h⟩
        exact ⟨b, bs', hb, hbs', (Except.ok.inj h).symm⟩
      · rintro ⟨b, bs', hb, hbs', rfl⟩
        exact ⟨b, hb, bs', hbs', rfl⟩

/-- Two lists that agree member by member have the same places. -/
theorem getElem?_of_forall₂ {R : α → β → Prop} {l : List α} {bs : List β}
    (h : List.Forall₂ R l bs) : ∀ i : Nat, l[i]? = none ∧ bs[i]? = none ∨
      ∃ a b, l[i]? = some a ∧ bs[i]? = some b ∧ R a b := by
  induction h with
  | nil => exact fun i => .inl ⟨rfl, rfl⟩
  | @cons a b l bs hab _ ih =>
      intro i
      cases i with
      | zero => exact .inr ⟨a, b, rfl, rfl, hab⟩
      | succ i => exact ih i

/-- The results of a list are those of its members. -/
theorem mem_iff_of_mapM {f : α → Except ε β} {l : List α} {bs : List β} (h : l.mapM f = .ok bs)
    {b : β} : b ∈ bs ↔ ∃ a ∈ l, f a = .ok b := by
  rw [mapM_eq_ok_iff] at h
  induction h with
  | nil => simp only [List.not_mem_nil, false_and, exists_false]
  | cons hb _ ih =>
      rw [List.mem_cons, ih, @eq_comm β b]
      simp only [List.mem_cons, exists_eq_or_imp, hb, Except.ok.injEq]

/-- A list has results exactly when all of its members have one. -/
theorem exists_mapM_iff {f : α → Except ε β} {l : List α} :
    (∃ bs, l.mapM f = .ok bs) ↔ ∀ a ∈ l, ∃ b, f a = .ok b := by
  constructor
  · rintro ⟨bs, h⟩
    rw [mapM_eq_ok_iff] at h
    induction h with
    | nil => exact fun a ha => absurd ha List.not_mem_nil
    | cons hb _ ih => exact List.forall_mem_cons.mpr ⟨⟨_, hb⟩, ih⟩
  · intro h
    rcases exists_mapM l h with ⟨bs, hbs, -⟩
    exact ⟨bs, hbs⟩

theorem map_eq_error_iff {x : Except ε α} {f : α → β} {e : ε} :
    x.map f = .error e ↔ x = .error e := by
  rcases x with e' | a
  · simp only [Except.map, Except.error.injEq]
  · simp only [Except.map, reduceCtorEq]

/-- The first item of a list with something wrong has this wrong with it. -/
def FirstFault (F : α → ε → Prop) (l : List α) (e : ε) : Prop :=
  ∃ (i : Nat) (a : α), l[i]? = some a ∧ F a e ∧ ∀ j < i, ∀ b, l[j]? = some b → ∀ e', ¬ F b e'

theorem not_firstFault_nil (F : α → ε → Prop) (e : ε) : ¬ FirstFault F [] e := by
  rintro ⟨i, a, ha, -⟩
  exact absurd ha (by simp only [List.getElem?_nil, reduceCtorEq, not_false_eq_true])

/-- The first fault of a list is that of its head, if it has one. -/
theorem firstFault_cons_iff {F : α → ε → Prop} {a : α} {l : List α} {e : ε} :
    FirstFault F (a :: l) e ↔ F a e ∨ (∀ e', ¬ F a e') ∧ FirstFault F l e := by
  constructor
  · rintro ⟨i, b, hb, hfault, hbefore⟩
    cases i with
    | zero => exact .inl (Option.some.inj hb ▸ hfault)
    | succ i =>
        refine .inr ⟨hbefore 0 (Nat.succ_pos i) a rfl, i, b, hb, hfault, fun j hj => ?_⟩
        exact hbefore (j + 1) (Nat.succ_lt_succ hj)
  · rintro (hfault | ⟨hnone, i, b, hb, hfault, hbefore⟩)
    · exact ⟨0, a, rfl, hfault, fun j hj => absurd hj (Nat.not_lt_zero j)⟩
    · refine ⟨i + 1, b, hb, hfault, fun j hj c hc => ?_⟩
      cases j with
      | zero => exact Option.some.inj hc ▸ hnone
      | succ j => exact hbefore j (Nat.lt_of_succ_lt_succ hj) c hc

/-- Where the list is in order the first item is also the least one. -/
theorem firstFault_iff_of_pairwise {F : α → ε → Prop} {r : α → α → Prop} [Std.Asymm r] {l : List α}
    (hl : l.Pairwise r) {e : ε} :
    FirstFault F l e ↔ ∃ a ∈ l, F a e ∧ ∀ b ∈ l, r b a → ∀ e', ¬ F b e' := by
  rw [List.pairwise_iff_getElem] at hl
  constructor
  · rintro ⟨i, a, ha, hfault, hbefore⟩
    refine ⟨a, List.mem_of_getElem? ha, hfault, fun b hb hr => ?_⟩
    rcases List.getElem?_of_mem hb with ⟨j, hj⟩
    rcases List.getElem?_eq_some_iff.mp ha with ⟨hi, rfl⟩
    refine hbefore j ?_ b hj
    rcases List.getElem?_eq_some_iff.mp hj with ⟨hj', rfl⟩
    -- An item that is not in front of another one is not less.
    by_contra hle
    rcases Nat.lt_or_eq_of_le (Nat.le_of_not_lt hle) with hlt | rfl
    · exact Std.Asymm.asymm _ _ hr (hl i j hi hj' hlt)
    · exact Std.Asymm.asymm _ _ hr hr
  · rintro ⟨a, ha, hfault, hbefore⟩
    rcases List.getElem?_of_mem ha with ⟨i, hi⟩
    refine ⟨i, a, hi, hfault, fun j hj b hb => ?_⟩
    rcases List.getElem?_eq_some_iff.mp hi with ⟨hi', rfl⟩
    refine hbefore b (List.mem_of_getElem? hb) ?_
    rcases List.getElem?_eq_some_iff.mp hb with ⟨hj', rfl⟩
    exact hl j i hj' hi' hj

/-- The first fault of numbered members, said by their places. -/
theorem firstFault_zipIdx_iff {F : α × Nat → ε → Prop} {l : List α} {e : ε} :
    FirstFault F l.zipIdx e ↔ ∃ i a, l[i]? = some a ∧ F (a, i) e ∧
      ∀ j < i, ∀ b, l[j]? = some b → ∀ e', ¬ F (b, j) e' := by
  simp only [FirstFault, List.getElem?_zipIdx, Nat.zero_add, Option.map_eq_some_iff, Prod.exists,
    Prod.forall, Prod.mk.injEq]
  constructor
  · rintro ⟨i, _, _, ⟨a, ha, rfl, rfl⟩, hfault, hbefore⟩
    exact ⟨i, a, ha, hfault, fun j hj b hb => hbefore j hj b j ⟨b, hb, rfl, rfl⟩⟩
  · rintro ⟨i, a, ha, hfault, hbefore⟩
    refine ⟨i, a, i, ⟨a, ha, rfl, rfl⟩, hfault, ?_⟩
    rintro j hj _ _ ⟨b, hb, rfl, rfl⟩
    exact hbefore j hj b hb

/-- What does not fail succeeds. -/
theorem forall_ne_error_iff {x : Except ε α} : (∀ e, x ≠ .error e) ↔ ∃ a, x = .ok a := by
  rcases x with e | a
  · simp only [ne_eq, Except.error.injEq, forall_eq', reduceCtorEq, exists_false]
  · simp only [ne_eq, reduceCtorEq, not_false_eq_true, implies_true, Except.ok.injEq, exists_eq']

/-- A list is not read because of the first of its items that is not. -/
theorem mapM_eq_error_iff {f : α → Except ε β} {l : List α} {e : ε} :
    l.mapM f = .error e ↔ FirstFault (fun a e => f a = .error e) l e := by
  induction l with
  | nil => exact ⟨fun h => absurd h (by rintro ⟨⟩), fun h => absurd h (not_firstFault_nil _ e)⟩
  | cons a l ih =>
      rw [List.mapM_cons, firstFault_cons_iff, ← ih]
      rcases f a with e' | b
      · simp only [Except.error.injEq, forall_eq', false_and, or_false]
        exact ⟨Except.error.inj, congrArg Except.error⟩
      · simp only [reduceCtorEq, not_false_eq_true, implies_true, true_and, false_or]
        rcases l.mapM f with e' | bs
        · exact Iff.rfl
        · exact ⟨fun h => absurd h (by rintro ⟨⟩), fun h => absurd h (by rintro ⟨⟩)⟩

/-- A fold whose steps fail because of their items fails with the first item
    that makes one fail. -/
theorem foldlM_eq_error_iff {f : β → α → Except ε β} {F : α → ε → Prop} {l : List α}
    (h : ∀ a ∈ l, ∀ b e, f b a = .error e ↔ F a e) {e : ε} : ∀ b,
      l.foldlM f b = .error e ↔ FirstFault F l e := by
  induction l with
  | nil =>
      intro b
      exact ⟨fun h => absurd h (by rintro ⟨⟩), fun h => absurd h (not_firstFault_nil F e)⟩
  | cons a l ih =>
      intro b
      have hstep := h a List.mem_cons_self b
      rw [List.foldlM_cons, firstFault_cons_iff]
      simp only [← hstep]
      rcases f b a with e' | c
      · simp only [Except.error.injEq, forall_eq', false_and, or_false]
        exact ⟨Except.error.inj, congrArg Except.error⟩
      · simp only [reduceCtorEq, not_false_eq_true, implies_true, true_and, false_or]
        exact ih (fun a' ha' => h a' (List.mem_cons_of_mem a ha')) c

end Attempt

end Worksheet
