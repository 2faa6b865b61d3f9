import Worksheet.Proofs.Formula.Overflow

/-!
# Calls

What a cell shows that calls a function of a range.

The text of a call names the function and two corners, with letters of either
case and with blanks around every part of it. All that is left of the text
when it has been read are the function and the numbers that the letters and
digits denote, so two texts that name the same corners are worth the same.

The value is what the function gives of the numbers in the covered cells, row
by row: their sum, the sum divided by their count, the least or the greatest.
Which cells are covered depends on the two rows and on the two columns, each
pair in any order, and so not on which pair of opposite corners is named.

## Main definitions

* `CallText`: The texts that call a function of the range between two corners.

## Theorems

* `ofText_eq_aggregate_iff`: They are exactly the texts read as an aggregate.
* `Grid.value_of_callText`: The value of a call.
-/

namespace Worksheet

namespace Formula

/-- The text calls a function of the range between two corners, each written as
    letters and digits. There may be blanks around any part, but none between
    the name and its parenthesis or inside a corner. -/
inductive CallText (f : Aggregate) (l₁ d₁ l₂ d₂ : List Char) : List Char → Prop where
  | intro {name b₁ b₂ b₃ b₄ b₅ b₆ b₇ : List Char} (hname : name.map Char.toUpper = f.name.toList)
      (hfirst : Column.IsNumeral l₁ ∧ Numeral.IsDecimal d₁)
      (hsecond : Column.IsNumeral l₂ ∧ Numeral.IsDecimal d₂)
      (hblank : ∀ b ∈ [b₁, b₂, b₃, b₄, b₅, b₆, b₇], ∀ c ∈ b, Text.isBlank c = true) :
      CallText f l₁ d₁ l₂ d₂ (b₁ ++ ('=' :: (b₂ ++ (name ++ '(' ::
        (b₃ ++ (l₁ ++ d₁ ++ (b₄ ++ ':' :: (b₅ ++ (l₂ ++ d₂))) ++ b₆) ++ [')']))) ++ b₇))

/-- Without blanks the text of a call is `=FN(X:Y)`. -/
theorem callText_plain {f : Aggregate} {name l₁ d₁ l₂ d₂ : List Char}
    (hname : name.map Char.toUpper = f.name.toList)
    (hfirst : Column.IsNumeral l₁ ∧ Numeral.IsDecimal d₁)
    (hsecond : Column.IsNumeral l₂ ∧ Numeral.IsDecimal d₂) :
    CallText f l₁ d₁ l₂ d₂
      ('=' :: (name ++ '(' :: (l₁ ++ d₁ ++ ':' :: (l₂ ++ d₂ ++ [')'])))) := by
  have hblank : ∀ b ∈ [[], [], [], [], [], [], []], ∀ c ∈ b, Text.isBlank c = true := by
    simp only [List.forall_mem_cons, List.not_mem_nil, false_imp_iff, implies_true, and_self]
  have hcall := CallText.intro hname hfirst hsecond hblank
  simpa only [List.nil_append, List.append_nil, List.append_assoc, List.cons_append] using hcall

/-- A call begins with a letter and ends with a parenthesis. -/
theorem IsCall.isTrimmed {body argument : List Char} {f : Aggregate} (h : IsCall body f argument) :
    Text.IsTrimmed Text.isBlank body := by
  rcases h with ⟨hname, -, -⟩
  refine Text.isTrimmed_append ?_ (Aggregate.ne_nil_of_name hname) ?_ (List.cons_ne_nil _ _)
  · exact fun c hc => Aggregate.isBlank_eq_false_of_mem_name hname c (List.mem_of_mem_head? hc)
  · intro c hc
    rw [← List.cons_append, List.getLast?_concat, Option.mem_some_iff] at hc
    exact hc ▸ by decide

/-- A call of an aggregate is parsed to the aggregate over its two corners. -/
theorem ofText_of_callText {f : Aggregate} {l₁ d₁ l₂ d₂ : List Char} {text : String}
    (h : CallText f l₁ d₁ l₂ d₂ text.toList) :
    ofText text = .ok (.aggregate f ⟨.ofParts l₁ d₁, .ofParts l₂ d₂⟩) := by
  generalize htext : text.toList = cs at h
  cases h with
  | @intro name b₁ b₂ b₃ b₄ b₅ b₆ b₇ hname hfirst hsecond hblank =>
      simp only [List.forall_mem_cons] at hblank
      rcases hblank with ⟨hb₁, hb₂, hb₃, hb₄, hb₅, hb₆, hb₇, -⟩
      -- From the inside out: the range, the argument with its blanks, the call.
      set range := l₁ ++ d₁ ++ (b₄ ++ ':' :: (b₅ ++ (l₂ ++ d₂)))
      set argument := b₃ ++ (range ++ b₆)
      have hrange : Corners.Written range ⟨.ofParts l₁ d₁, .ofParts l₂ d₂⟩ :=
        .intro (.intro hfirst.1 hfirst.2) hb₄ hb₅ (.intro hsecond.1 hsecond.2)
      have hargument : Text.trim Text.isBlank argument = range :=
        Text.trim_eq_iff.mpr ⟨hrange.isTrimmed, b₃, b₆, rfl, hb₃, hb₆⟩
      have hcall : IsCall (name ++ '(' :: (argument ++ [')'])) f argument := by
        refine .intro hname ?_ ?_
        · intro hnil
          rw [hnil] at hargument
          exact hrange.ne_nil hargument.symm
        · have hclosing : Text.isBlank ')' ≠ true := by decide
          simp only [argument, List.mem_append, not_or]
          exact ⟨fun hmem => hclosing (hb₃ _ hmem), hrange.closing_not_mem,
            fun hmem => hclosing (hb₆ _ hmem)⟩
      have htext : text.toList =
          b₁ ++ '=' :: (b₂ ++ (name ++ '(' :: (argument ++ [')']) ++ b₇)) := by
        rw [htext, List.cons_append, List.append_assoc b₂]
      rw [ofText_eq_ofBody_of_isTrimmed hb₁ hb₂ hb₇ hcall.isTrimmed htext]
      exact (ofBody_eq_iff_written hcall.isTrimmed).mpr (.aggregate hcall (hargument ▸ hrange))

/-- Every text parsed to an aggregate is a call, with the corners the formula
    holds. -/
theorem exists_callText_of_ofText {text : String} {f : Aggregate} {corners : Corners}
    (h : ofText text = .ok (.aggregate f corners)) : ∃ l₁ d₁ l₂ d₂,
      CallText f l₁ d₁ l₂ d₂ text.toList ∧ ⟨.ofParts l₁ d₁, .ofParts l₂ d₂⟩ = corners := by
  cases Written.of_ofText h with
  | @body rest _ hrest hwritten =>
      rcases (Text.trim_eq_iff.mp hrest).2 with ⟨b₁, b₇, htext, hb₁, hb₇⟩
      rcases (Text.trim_eq_iff.mp (Eq.refl (Text.trim Text.isBlank rest))).2 with
        ⟨b₂, b₇', hbody, hb₂, hb₇'⟩
      -- What was cut off, and the forms that are left of the body and of its argument.
      generalize Text.trim Text.isBlank rest = body at hwritten hbody
      cases hwritten with
      | @aggregate _ argument _ hcall hrange =>
          rcases (Text.trim_eq_iff.mp (Eq.refl (Text.trim Text.isBlank argument))).2 with
            ⟨b₃, b₆, hargument, hb₃, hb₆⟩
          generalize Text.trim Text.isBlank argument = range at hrange hargument
          rcases hcall with ⟨hname, -, -⟩
          rcases hrange with ⟨⟨hl₁, hd₁⟩, hb₄, hb₅, ⟨hl₂, hd₂⟩⟩
          rename_i name b₄ b₅ l₁ d₁ l₂ d₂
          refine ⟨l₁, d₁, l₂, d₂, ?_, rfl⟩
          have hb₇'' := List.forall_mem_append.mpr ⟨hb₇', hb₇⟩
          have hblank : ∀ b ∈ [b₁, b₂, b₃, b₄, b₅, b₆, b₇' ++ b₇], ∀ c ∈ b,
              Text.isBlank c = true := by
            simp only [List.forall_mem_cons]
            exact ⟨hb₁, hb₂, hb₃, hb₄, hb₅, hb₆, hb₇'', fun b hb => absurd hb List.not_mem_nil⟩
          have hcall := CallText.intro hname ⟨hl₁, hd₁⟩ ⟨hl₂, hd₂⟩ hblank
          rw [htext, hbody, hargument]
          simp only [List.append_assoc, List.cons_append] at hcall ⊢
          exact hcall

/-- The texts that are read as a function of a range are the calls of that
    function. -/
theorem ofText_eq_aggregate_iff {text : String} {f : Aggregate} {corners : Corners} :
    ofText text = .ok (.aggregate f corners) ↔ ∃ l₁ d₁ l₂ d₂,
      CallText f l₁ d₁ l₂ d₂ text.toList ∧ ⟨.ofParts l₁ d₁, .ofParts l₂ d₂⟩ = corners := by
  refine ⟨exists_callText_of_ofText, ?_⟩
  rintro ⟨l₁, d₁, l₂, d₂, hcall, rfl⟩
  exact ofText_of_callText hcall

end Formula

namespace Grid

/-- The value of a call is the aggregate of the numbers read along the scan. -/
theorem value_eq_of_callText {f : Aggregate} {l₁ d₁ l₂ d₂ : List Char} {text : String}
    (h : Formula.CallText f l₁ d₁ l₂ d₂ text.toList) (g : Grid) :
    g.value text =
      .number (f.apply ((g.scan ⟨.ofParts l₁ d₁, .ofParts l₂ d₂⟩).filterMap g.numberAt?)) := by
  simp only [value, Formula.ofText_of_callText h, valueOf, numbers_eq_filterMap_scan]

/-- Two calls are worth the same when a row lies between the two rows of one
    exactly if it lies between those of the other, and a column likewise. -/
theorem value_eq_of_between {f : Aggregate} {l₁ d₁ l₂ d₂ l₁' d₁' l₂' d₂' : List Char}
    {text text' : String} (h : Formula.CallText f l₁ d₁ l₂ d₂ text.toList)
    (h' : Formula.CallText f l₁' d₁' l₂' d₂' text'.toList)
    (hrow : ∀ x, Between (Numeral.decimalValue d₁') (Numeral.decimalValue d₂') x ↔
      Between (Numeral.decimalValue d₁) (Numeral.decimalValue d₂) x)
    (hcol : ∀ x, Between (Column.value l₁') (Column.value l₂') x ↔
      Between (Column.value l₁) (Column.value l₂) x) (g : Grid) :
    g.value text' = g.value text := by
  rw [value_eq_of_callText h, value_eq_of_callText h', scan_eq_of_covers_iff g fun a => ?_]
  rw [Corners.covers_ofParts_iff, Corners.covers_ofParts_iff]
  exact and_congr (hrow _) (hcol _)

/-- A call is worth what its function gives of the numbers in the cells between
    its corners, row by row, as far as the limits and the size of the grid
    reach. Without numbers that is zero, and it does not matter which two
    opposite corners the call names. -/
theorem value_of_callText {f : Aggregate} {l₁ d₁ l₂ d₂ : List Char} {text : String}
    (h : Formula.CallText f l₁ d₁ l₂ d₂ text.toList) (g : Grid) :
    (∃ cells : List Address, cells.Pairwise Address.Before ∧
      (∀ a, a ∈ cells ↔ a.InLimits ∧ g.Inside a ∧
        Between (Numeral.decimalValue d₁) (Numeral.decimalValue d₂) (a.row.toNat + 1) ∧
        Between (Column.value l₁) (Column.value l₂) (a.col.toNat + 1)) ∧
      g.value text = .number (f.apply (cells.filterMap g.numberAt?)) ∧
      Aggregate.Gives (cells.filterMap g.numberAt?) f (f.apply (cells.filterMap g.numberAt?)) ∧
      (cells.filterMap g.numberAt? = [] → g.value text = .number (Number.zero false))) ∧
    ∀ text' : String, Formula.CallText f l₂ d₂ l₁ d₁ text'.toList ∨
      Formula.CallText f l₁ d₂ l₂ d₁ text'.toList ∨ Formula.CallText f l₂ d₁ l₁ d₂ text'.toList →
        g.value text' = g.value text := by
  have hvalue := value_eq_of_callText h g
  have hfinite : ∀ corners, ∀ x ∈ (g.scan corners).filterMap g.numberAt?, x.isFinite = true := by
    intro corners
    rw [← numbers_eq_filterMap_scan]
    exact isFinite_of_mem_numbers
  refine ⟨⟨_, g.pairwise_scan _, fun a => ?_, hvalue, Aggregate.gives_apply f (hfinite _),
    fun hnil => ?_⟩, fun text' h' => ?_⟩
  · rw [mem_scan_iff, Corners.covers_ofParts_iff]
  · rw [hvalue, hnil]
    rfl
  · -- What lies between two numbers does not depend on which of them comes first.
    rcases h' with h' | h' | h'
    · exact value_eq_of_between h h' (fun _ => between_comm) (fun _ => between_comm) g
    · exact value_eq_of_between h h' (fun _ => between_comm) (fun _ => Iff.rfl) g
    · exact value_eq_of_between h h' (fun _ => Iff.rfl) (fun _ => between_comm) g

/-- All four functions over row zero and two rows, and a sum that names the
    other two corners. The formula in the range is no number, and a comma in
    one does not count. -/
theorem value_of_callText_row_zero :
    let g : Grid := ⟨fun a => if a = ⟨0, 1⟩ then "2" else if a = ⟨1, 1⟩ then "1,5" else "=3",
      some (9, 9)⟩
    Formula.CallText .sum ['b'] ['2'] ['A'] ['0'] "=sUm(b2:A0)".toList ∧
      g.value "=sUm(b2:A0)" = .number (Number.ofNat 17) ∧
      g.value "=avg(b2:A0)" = .number (Number.ofDecimal false ⟨85, -1⟩) ∧
      g.value "=Min(b2:A0)" = .number (Number.ofNat 2) ∧
      g.value "=MAX(b2:A0)" = .number (Number.ofNat 15) ∧
      g.value "=SUM(A2:b0)" = g.value "=sUm(b2:A0)" := by
  intro g
  have hcall : Formula.CallText .sum ['b'] ['2'] ['A'] ['0'] "=sUm(b2:A0)".toList := by
    simpa using @Formula.callText_plain .sum ['s', 'U', 'm'] ['b'] ['2'] ['A'] ['0'] (by decide)
      (by decide) (by decide)
  have hcall' : Formula.CallText .sum ['A'] ['2'] ['b'] ['0'] "=SUM(A2:b0)".toList := by
    simpa using @Formula.callText_plain .sum ['S', 'U', 'M'] ['A'] ['2'] ['b'] ['0'] (by decide)
      (by decide) (by decide)
  exact ⟨hcall, by decide +kernel, by decide +kernel, by decide +kernel, by decide +kernel,
    (value_of_callText hcall g).2 _ (.inr (.inr hcall'))⟩

end Grid

end Worksheet
