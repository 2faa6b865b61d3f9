import Mathlib.Data.List.Basic
import Worksheet.File.Path

/-!
# Spellings of Paths

That the shortest spelling of a path spells it.

Reading a path cuts its text at the slashes and keeps what can be a name. What
is kept is put together again with single slashes, so reading the result finds
the same names: they hold no slash, and none of them would be left out. Paths
are therefore told apart by their shortest spellings, and files that are kept
by these are kept by their paths.

## Main definitions

* `Path.IsName`: What can stand between two slashes of a path.

## Theorems

* `Path.stretches_eq_splitOn`: Cutting at a separator.
* `Path.ofString_toString`: A path is read from its shortest spelling.
* `Path.toString_inj`: Different paths have different shortest spellings.
-/

namespace Worksheet

namespace Path

/-- The text can be a name in a path. -/
def IsName (cs : List Char) : Prop :=
  (cs ≠ [] ∧ cs ≠ ['.']) ∧ '/' ∉ cs

/-- The stretches between slashes are the library's `splitOn`. -/
theorem stretches_eq_splitOn (separator : Char) (cs : List Char) :
    stretches separator cs = cs.splitOn separator := by
  induction cs with
  | nil => rfl
  | cons c cs ih =>
      rw [stretches, List.splitOn_cons_eq_if_modifyHead, ih]
      simp only [beq_iff_eq]
      by_cases hc : c = separator
      · rw [if_pos hc, if_pos hc]
      · rw [if_neg hc, if_neg hc]
        -- There is always a first stretch for the character to be put in front of.
        cases hrest : cs.splitOn separator with
        | nil => exact absurd hrest (List.splitOn_ne_nil separator cs)
        | cons first others => rfl

theorem not_mem_of_mem_splitOn {separator : Char} {cs : List Char} :
    ∀ stretch ∈ cs.splitOn separator, separator ∉ stretch := by
  induction cs with
  | nil =>
      rw [List.splitOn_nil, List.forall_mem_singleton]
      exact List.not_mem_nil
  | cons c cs ih =>
      rw [List.splitOn_cons_eq_if_modifyHead]
      simp only [beq_iff_eq]
      by_cases hc : c = separator
      · rw [if_pos hc, List.forall_mem_cons]
        exact ⟨List.not_mem_nil, ih⟩
      · rw [if_neg hc]
        cases hrest : cs.splitOn separator with
        | nil => exact absurd hrest (List.splitOn_ne_nil separator cs)
        | cons first others =>
            rw [hrest, List.forall_mem_cons] at ih
            rw [List.modifyHead_cons, List.forall_mem_cons, List.mem_cons, not_or]
            exact ⟨⟨fun heq => hc heq.symm, ih.1⟩, ih.2⟩

variable {p : Path} {names : List (List Char)}

/-- What a path consists of is names: no slash in them, neither empty nor a
    dot. -/
theorem isName_of_mem_ofString {text name : String} (h : name ∈ (ofString text).names) :
    IsName name.toList := by
  rw [ofString, List.mem_map] at h
  rcases h with ⟨cs, hcs, rfl⟩
  rw [List.mem_filter, stretches_eq_splitOn, decide_eq_true_eq] at hcs
  rw [String.toList_ofList]
  exact ⟨hcs.2, not_mem_of_mem_splitOn cs hcs.1⟩

/-- Names put together with slashes are cut apart again, and all of them are
    kept. -/
theorem filter_stretches_intercalate (h : ∀ cs ∈ names, IsName cs) :
    (stretches '/' (['/'].intercalate names)).filter (fun cs => cs ≠ [] ∧ cs ≠ ['.']) = names := by
  rw [stretches_eq_splitOn]
  by_cases hne : names = []
  · rw [hne]
    rfl
  · rw [List.splitOn_intercalate '/' (fun cs hcs => (h cs hcs).2) hne, List.filter_eq_self]
    exact fun cs hcs => decide_eq_true (h cs hcs).1

theorem head?_intercalate_ne (h : ∀ cs ∈ names, IsName cs) :
    (['/'].intercalate names).head? ≠ some '/' := by
  cases names with
  | nil => exact fun hnone => absurd hnone.symm (Option.some_ne_none '/')
  | cons first others =>
      rw [List.forall_mem_cons] at h
      have hhead : (['/'].intercalate (first :: others)).head? = first.head? := by
        cases others with
        | nil => rw [List.intercalate_singleton]
        | cons second others =>
            rw [List.intercalate_cons_cons, List.append_assoc,
              List.head?_append_of_ne_nil _ h.1.1.1]
      rw [hhead]
      exact fun hslash => h.1.2 (List.mem_of_mem_head? hslash)

/-- A path that consists of names is read from its shortest spelling. -/
theorem ofString_toString_of_forall (h : ∀ name ∈ p.names, IsName name.toList) :
    ofString p.toString = p := by
  rcases p with ⟨absolute, names⟩
  have hnames : ∀ cs ∈ names.map String.toList, IsName cs := List.forall_mem_map.mpr h
  have hkept := filter_stretches_intercalate hnames
  have hback : (names.map String.toList).map String.ofList = names := by
    simp only [List.map_map, Function.comp_def, String.ofList_toList, List.map_id']
  have hjoined := @String.toList_intercalate "/" names
  cases absolute with
  | true =>
      have hchars : (toString ⟨true, names⟩).toList =
          '/' :: ['/'].intercalate (names.map String.toList) := by
        rw [toString, if_pos rfl, String.toList_append, hjoined]
        rfl
      -- Nothing stands in front of the first slash, and nothing is left of that.
      rw [ofString, hchars, stretches, if_pos rfl, List.filter_cons_of_neg (by decide), hkept, hback]
      rfl
  | false =>
      by_cases hempty : names = []
      · rw [hempty]
        rfl
      · have hchars : (toString ⟨false, names⟩).toList =
            ['/'].intercalate (names.map String.toList) := by
          rw [toString, if_neg Bool.false_ne_true, if_neg (by rwa [List.isEmpty_iff]), hjoined]
          rfl
        rw [ofString, hchars, hkept, hback, beq_eq_false_iff_ne.mpr (head?_intercalate_ne hnames)]

/-- A path that was read is read again from its shortest spelling. -/
theorem ofString_toString (text : String) : ofString (ofString text).toString = ofString text :=
  ofString_toString_of_forall fun _ => isName_of_mem_ofString

/-- Texts that spell different paths have different shortest spellings. -/
theorem toString_inj {x y : String} :
    (ofString x).toString = (ofString y).toString ↔ ofString x = ofString y := by
  refine ⟨fun h => ?_, congrArg toString⟩
  rw [← ofString_toString x, h, ofString_toString]

end Path

end Worksheet
