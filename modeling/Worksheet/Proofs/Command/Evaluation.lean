import Worksheet.Command.Run
import Worksheet.Proofs.Address.Notation
import Worksheet.Proofs.Command.Rendering
import Worksheet.Proofs.Number.Integer
import Worksheet.Proofs.Sheet.Evaluation
import Worksheet.Proofs.Sheet.Writes

/-!
# Evaluating next to Assignments

What the evaluation of a formula prints, and when it fails.

An assignment is cut at its first equals sign. What stands in front of it names
a cell, white space aside, and what stands behind it is the text of that cell
as it is, further equals signs included. Assignments are carried out one after
the other, and the first one that cannot be carried out decides how the whole
command fails; what was assigned before does not matter, since whether an
assignment can be carried out is told by its text alone.

Otherwise every cell that was assigned to holds the text that was assigned
last, and the others hold what was loaded. The sheet may have grown on the way
for texts that are no longer there, but a valid sheet is worth the same
whatever size its ranges are read in. So what is printed is settled by the
texts in the end, and by nothing else.

## Main definitions

* `Command.Splits`: An assignment is cut into a cell and a text.
* `Command.Assigns`: An assignment gives a text to a cell.
* `Command.Feasible`: Every assignment can be carried out.
* `Command.AssignmentFault`: What is wrong with an assignment.
* `Command.LastAssigned`: The text that a cell is given last.
* `Command.TextsAfter`: The texts of all cells after some assignments.
* `Command.initialSheet`: The sheet that is there before the assignments.

## Theorems

* `Command.splitAssignment_eq_ok_iff`: Assignments are cut as they should be.
* `Command.assign_of_assigns`, `Command.assign_eq_error_iff`: One assignment.
* `Command.foldlM_assign`, `Command.exists_firstFault`: All of them.
* `Command.textsAfter_storeAll`: The texts after them.
* `Command.run_eval_outcome`: What an evaluation leaves behind.
-/

namespace Worksheet

namespace Command

/-- The assignment is cut at its first equals sign into a cell, white space
    aside, and a text. -/
def Splits (assignment cell text : String) : Prop :=
  ∃ left, assignment.toList = left ++ '=' :: text.toList ∧ '=' ∉ left ∧
    Text.trim Text.isWhite left = cell.toList

/-- The assignment gives the text to the cell. -/
def Assigns (assignment : String) (a : Address) (text : String) : Prop :=
  ∃ cell, Splits assignment cell text ∧ Address.ofA1 cell = .ok a

/-- Every assignment gives a text to a cell. -/
def Feasible (assignments : List String) : Prop :=
  ∀ x ∈ assignments, ∃ a text, Assigns x a text

/-- What is wrong with an assignment. -/
inductive AssignmentFault (assignment : String) : Failure → Prop where
  /-- It has no equals sign. -/
  | noEquals (h : '=' ∉ assignment.toList) :
      AssignmentFault assignment (.ofMessage s!"Expected CELL=TEXT, got '{assignment}'")
  /-- Nothing but white space stands in front of the equals sign. -/
  | noCell {text : String} (h : Splits assignment "" text) :
      AssignmentFault assignment (.ofMessage s!"Missing cell in '{assignment}'")
  /-- What stands in front of the equals sign is no address. -/
  | noAddress {cell text : String} {e : Address.Error} (h : Splits assignment cell text)
      (hcell : cell ≠ "") (he : Address.ofA1 cell = .error e) :
      AssignmentFault assignment (.ofSetting cell e)

/-- The text is the last one that is given to the cell. -/
def LastAssigned (assignments : List String) (a : Address) (text : String) : Prop :=
  ∃ (i : Nat) (x : String), assignments[i]? = some x ∧ Assigns x a text ∧
    ∀ j, i < j → ∀ y, assignments[j]? = some y → ∀ u, ¬ Assigns y a u

/-- The texts of all cells before and after some assignments: those that are
    assigned to hold the last text they are given, and the others keep theirs. -/
def TextsAfter (assignments : List String) (before after : Address → String) : Prop :=
  ∀ a, (∀ text, LastAssigned assignments a text → after a = text) ∧
    ((∀ x ∈ assignments, ∀ text, ¬ Assigns x a text) → after a = before a)

/-- The sheet that is there before the assignments: that of a file, or a fresh
    one. -/
def initialSheet (d : Directory) (sheet : Option String) (delimiter : Char) :
    Except Failure Sheet :=
  match sheet with
  | some path => loadSheet d path delimiter
  | none => .ok (Sheet.fresh Sheet.defaultName)

variable {x cell text : String} {a : Address}

/-- Every text with an equals sign is cut in one way. -/
theorem exists_splits (h : '=' ∈ x.toList) : ∃ cell text, Splits x cell text := by
  rcases List.eq_append_cons_of_mem h with ⟨left, rest, hx, hleft⟩
  refine ⟨String.ofList (Text.trim Text.isWhite left), String.ofList rest, left, ?_, hleft, ?_⟩
  · rw [String.toList_ofList, hx]
  · rw [String.toList_ofList]

/-- The first equals sign is where an assignment is cut. -/
theorem Splits.cut (h : Splits x cell text) :
    Text.trim Text.isWhite (x.toList.takeWhile (· != '=')) = cell.toList ∧
      x.toList.dropWhile (· != '=') = '=' :: text.toList := by
  rcases h with ⟨left, hx, hleft, hcell⟩
  have hcut := Text.takeWhile_and_dropWhile_bne hleft text.toList
  rw [hx, hcut.1, hcut.2]
  exact ⟨hcell, rfl⟩

/-- An argument is split at one place only, its first equals sign. -/
theorem Splits.eq {cell' text' : String} (h : Splits x cell text) (h' : Splits x cell' text') :
    cell = cell' ∧ text = text' := by
  have htext := h.cut.2.symm.trans h'.cut.2
  rw [List.cons.injEq] at htext
  exact ⟨String.toList_injective (h.cut.1.symm.trans h'.cut.1), String.toList_injective htext.2⟩

theorem Splits.mem (h : Splits x cell text) : '=' ∈ x.toList := by
  rcases h with ⟨left, hx, -, -⟩
  rw [hx]
  exact List.mem_append_right left List.mem_cons_self

/-- An argument with an equals sign is split there, and refused only when no
    cell stands before the sign. -/
theorem splitAssignment_of_splits (h : Splits x cell text) :
    splitAssignment x = if cell = "" then .error (.ofMessage s!"Missing cell in '{x}'")
      else .ok (cell, text) := by
  rcases h.cut with ⟨htake, hdrop⟩
  have hempty : cell.toList.isEmpty = true ↔ cell = "" := by
    rw [List.isEmpty_iff, String.toList_eq_nil_iff]
  simp only [splitAssignment, htake, hdrop, hempty, String.ofList_toList]

/-- An argument without an equals sign is refused with the message that says
    what was expected. -/
theorem splitAssignment_of_not_mem (h : '=' ∉ x.toList) :
    splitAssignment x = .error (.ofMessage s!"Expected CELL=TEXT, got '{x}'") := by
  have hdrop : x.toList.dropWhile (· != '=') = [] := by
    rw [List.dropWhile_eq_nil_iff]
    intro c hc
    rw [bne_iff_ne]
    rintro rfl
    exact h hc
  simp only [splitAssignment, hdrop]

/-- An assignment is cut into a cell and a text exactly as it should be. -/
theorem splitAssignment_eq_ok_iff :
    splitAssignment x = .ok (cell, text) ↔ cell ≠ "" ∧ Splits x cell text := by
  constructor
  · intro h
    by_cases hmem : '=' ∈ x.toList
    · rcases exists_splits hmem with ⟨cell', text', hsplits⟩
      rw [splitAssignment_of_splits hsplits] at h
      by_cases hcell : cell' = ""
      · rw [if_pos hcell] at h
        exact absurd h (by simp only [reduceCtorEq, not_false_eq_true])
      · rw [if_neg hcell, Except.ok.injEq, Prod.mk.injEq] at h
        rw [← h.1, ← h.2]
        exact ⟨hcell, hsplits⟩
    · rw [splitAssignment_of_not_mem hmem] at h
      exact absurd h (by simp only [reduceCtorEq, not_false_eq_true])
  · rintro ⟨hcell, hsplits⟩
    rw [splitAssignment_of_splits hsplits, if_neg hcell]

theorem ne_empty_of_ofA1 (h : Address.ofA1 cell = .ok a) : cell ≠ "" := by
  rintro rfl
  exact absurd h (by rintro ⟨⟩)

/-- A write under an address within the limits succeeds and stores the text. -/
theorem writeA1_of_ofA1 (h : Address.ofA1 cell = .ok a) (s : Sheet) (text : String) :
    s.writeA1 cell text = .ok (s.store a text) := by
  have hlimits := (Address.ofA1_eq_ok_iff.mp h).inLimits
  rw [Sheet.writeA1, h]
  exact Attempt.mapError_eq_ok_iff.mpr (s.write_of_inLimits hlimits text)

/-- Writing by an A1 address only fails for the address. -/
theorem writeA1_eq_error_iff {s : Sheet} {e : Address.Error} :
    s.writeA1 cell text = .error e ↔ Address.ofA1 cell = .error e := by
  cases hcell : Address.ofA1 cell with
  | error e' =>
      rw [Sheet.writeA1, hcell]
      simp only [bind, Except.bind, Except.error.injEq]
  | ok a => simp only [writeA1_of_ofA1 hcell, reduceCtorEq]

/-- Past the split an assignment fails only where the write fails, and its
    failure names the cell as it was given. -/
theorem assign_of_splits (h : Splits x cell text) (hcell : cell ≠ "") (s : Sheet) :
    assign s x = (s.writeA1 cell text).mapError (.ofSetting cell) := by
  rw [assign, splitAssignment_eq_ok_iff.mpr ⟨hcell, h⟩]
  rfl

/-- An assignment is carried out by storing its text. -/
theorem assign_of_assigns (h : Assigns x a text) (s : Sheet) :
    assign s x = .ok (s.store a text) := by
  rcases h with ⟨cell, hsplits, ha⟩
  rw [assign_of_splits hsplits (ne_empty_of_ofA1 ha)]
  exact Attempt.mapError_eq_ok_iff.mpr (writeA1_of_ofA1 ha s text)

/-- The only fault of an argument without an equals sign is that the sign is
    missing. -/
theorem assignmentFault_iff_of_not_mem (h : '=' ∉ x.toList) {f : Failure} :
    AssignmentFault x f ↔ f = .ofMessage s!"Expected CELL=TEXT, got '{x}'" := by
  constructor
  · intro hfault
    cases hfault with
    | noEquals => rfl
    | noCell hsplits => exact absurd hsplits.mem h
    | noAddress hsplits => exact absurd hsplits.mem h
  · rintro rfl
    exact .noEquals h

/-- With an equals sign the fault is a missing cell, or else what the address
    parser answers. -/
theorem assignmentFault_iff_of_splits (h : Splits x cell text) {f : Failure} :
    AssignmentFault x f ↔ cell = "" ∧ f = .ofMessage s!"Missing cell in '{x}'" ∨
      cell ≠ "" ∧ ∃ e, Address.ofA1 cell = .error e ∧ f = .ofSetting cell e := by
  constructor
  · intro hfault
    cases hfault with
    | noEquals hnot => exact absurd h.mem hnot
    | noCell hsplits => exact .inl ⟨(h.eq hsplits).1, rfl⟩
    | noAddress hsplits hcell he =>
        rcases hsplits.eq h with ⟨rfl, -⟩
        exact .inr ⟨hcell, _, he, rfl⟩
  · rintro (⟨rfl, rfl⟩ | ⟨hcell, e, he, rfl⟩)
    · exact .noCell h
    · exact .noAddress h hcell he

/-- An assignment fails for what is wrong with it, whatever the sheet. -/
theorem assign_eq_error_iff {s : Sheet} {f : Failure} :
    assign s x = .error f ↔ AssignmentFault x f := by
  have herror : ∀ e : Failure, (Except.error e : Except Failure Sheet) = .error f ↔ f = e := by
    intro e
    rw [Except.error.injEq, eq_comm]
  by_cases hmem : '=' ∈ x.toList
  · rcases exists_splits hmem with ⟨cell, text, hsplits⟩
    rw [assignmentFault_iff_of_splits hsplits]
    by_cases hcell : cell = ""
    · rw [and_iff_right hcell, or_iff_left fun h => h.1 hcell, assign,
        splitAssignment_of_splits hsplits, if_pos hcell]
      exact herror _
    · rw [and_iff_right hcell, or_iff_right fun h => hcell h.1,
        assign_of_splits hsplits hcell, Attempt.mapError_eq_error_iff]
      simp only [writeA1_eq_error_iff]
      exact exists_congr fun e => and_congr_right fun _ => eq_comm
  · rw [assign, splitAssignment_of_not_mem hmem, assignmentFault_iff_of_not_mem hmem]
    exact herror _

variable {assignments : List String} {writes : List (Address × String)}

/-- A write stores the text that an assignment gives to its cell. -/
def IsWrite (x : String) (w : Address × String) : Prop :=
  Assigns x w.1 w.2

/-- Assignments that can all be read are a list of writes. -/
theorem exists_writes (h : Feasible assignments) :
    ∃ writes, List.Forall₂ IsWrite assignments writes := by
  induction assignments with
  | nil => exact ⟨[], .nil⟩
  | cons x assignments ih =>
      rw [Feasible, List.forall_mem_cons] at h
      rcases h.1 with ⟨a, text, hx⟩
      rcases ih h.2 with ⟨writes, hwrites⟩
      exact ⟨(a, text) :: writes, .cons hx hwrites⟩

/-- Assignments are carried out by storing their texts. -/
theorem foldlM_assign (h : List.Forall₂ IsWrite assignments writes) : ∀ s : Sheet,
    assignments.foldlM assign s = .ok (s.storeAll writes) := by
  induction h with
  | nil => exact fun s => rfl
  | cons hx _ ih =>
      intro s
      rw [List.foldlM_cons, assign_of_assigns hx, Sheet.storeAll_cons]
      exact ih _

/-- An assignment settles its cell and its text. -/
theorem Assigns.eq {a' : Address} {text' : String} (h : Assigns x a text)
    (h' : Assigns x a' text') : a = a' ∧ text = text' := by
  rcases h with ⟨cell, hsplits, ha⟩
  rcases h' with ⟨cell', hsplits', ha'⟩
  rcases hsplits.eq hsplits' with ⟨rfl, rfl⟩
  exact ⟨Except.ok.inj (ha.symm.trans ha'), rfl⟩

/-- Of two assignments that come last for a cell neither comes before the
    other. -/
theorem LastAssigned.eq {text' : String} (h : LastAssigned assignments a text)
    (h' : LastAssigned assignments a text') : text = text' := by
  rcases h with ⟨i, x, hi, hx, hlast⟩
  rcases h' with ⟨j, y, hj, hy, hlast'⟩
  rcases Nat.lt_trichotomy i j with hlt | rfl | hlt
  · exact absurd hy (hlast j hlt y hj text')
  · rw [hi, Option.some.injEq] at hj
    exact (hx.eq (hj ▸ hy)).2
  · exact absurd hx (hlast' i hlt x hi text)

/-- An assignment in front of others leaves the last text of a cell what it
    was. -/
theorem LastAssigned.cons {y : String} (h : LastAssigned assignments a text) :
    LastAssigned (y :: assignments) a text := by
  rcases h with ⟨i, x, hi, hx, hlast⟩
  refine ⟨i + 1, x, hi, hx, fun j hj z hz => ?_⟩
  cases j with
  | zero => exact absurd hj (Nat.not_lt_zero _)
  | succ j => exact hlast j (Nat.lt_of_succ_lt_succ hj) z hz

/-- The first assignment is the last one of its cell when no later one names the
    cell. -/
theorem lastAssigned_head (h : Assigns x a text)
    (hnone : ∀ y ∈ assignments, ∀ u, ¬ Assigns y a u) :
    LastAssigned (x :: assignments) a text := by
  refine ⟨0, x, rfl, h, fun j hj y hy => ?_⟩
  cases j with
  | zero => exact absurd hj (Nat.lt_irrefl 0)
  | succ j => exact hnone y (List.mem_of_getElem? hy)

/-- The text of a cell after some assignments: the one that it is given last, or
    what was there before. -/
theorem text_storeAll_of_assignments (h : List.Forall₂ IsWrite assignments writes) (a : Address) :
    ∀ s : Sheet, LastAssigned assignments a ((s.storeAll writes).text a) ∨
      (∀ x ∈ assignments, ∀ text, ¬ Assigns x a text) ∧
        (s.storeAll writes).text a = s.text a := by
  induction h with
  | nil => exact fun s => .inr ⟨fun x hx => absurd hx List.not_mem_nil, rfl⟩
  | @cons x w assignments writes hx _ ih =>
      intro s
      rw [Sheet.storeAll_cons]
      rcases ih (s.store w.1 w.2) with hlast | ⟨hnone, htext⟩
      · exact .inl hlast.cons
      · rw [htext, Sheet.text_store]
        by_cases ha : w.1 = a
        · rw [if_pos ha]
          exact .inl (lastAssigned_head (ha ▸ hx) hnone)
        · rw [if_neg ha]
          refine .inr ⟨?_, rfl⟩
          rw [List.forall_mem_cons]
          exact ⟨fun text hx' => ha (hx.eq hx').1, hnone⟩

theorem LastAssigned.not_forall (h : LastAssigned assignments a text) :
    ¬ ∀ x ∈ assignments, ∀ u, ¬ Assigns x a u := by
  rcases h with ⟨i, x, hi, hx, -⟩
  exact fun hnone => hnone x (List.mem_of_getElem? hi) text hx

/-- After some assignments the cells hold the texts that they are to hold. -/
theorem textsAfter_storeAll (h : List.Forall₂ IsWrite assignments writes) (s : Sheet) :
    TextsAfter assignments s.text (s.storeAll writes).text := by
  intro a
  rcases text_storeAll_of_assignments h a s with hlast | ⟨hnone, htext⟩
  · exact ⟨fun text h => hlast.eq h, fun hnone => absurd hnone hlast.not_forall⟩
  · exact ⟨fun text h => absurd hnone h.not_forall, fun _ => htext⟩

/-- Where two lists of assignments come to the same for every cell, a cell is in
    both or in neither. -/
theorem text_storeAll_congr {assignments' : List String} {writes' : List (Address × String)}
    (h : List.Forall₂ IsWrite assignments writes)
    (h' : List.Forall₂ IsWrite assignments' writes')
    (hlast : ∀ a text, LastAssigned assignments' a text ↔ LastAssigned assignments a text)
    (s : Sheet) : (s.storeAll writes').text = (s.storeAll writes).text := by
  funext a
  rcases text_storeAll_of_assignments h a s with hmine | ⟨hnone, htext⟩
  · exact (textsAfter_storeAll h' s a).1 _ ((hlast a _).mpr hmine)
  · rcases text_storeAll_of_assignments h' a s with hother | ⟨-, htext'⟩
    · exact absurd hnone ((hlast a _).mp hother).not_forall
    · rw [htext, htext']

/-- The sheet of `eval` is the loaded or empty sheet with the assignments
    carried out in order. -/
theorem evalSheet_eq (d : Directory) (sheet : Option String) (assignments : List String)
    (delimiter : Char) : evalSheet d sheet assignments delimiter =
      initialSheet d sheet delimiter >>= fun s => assignments.foldlM assign s := by
  cases sheet <;> rfl

/-- The sheet the assignments start from satisfies the invariant, whether it is
    empty or read from a file. -/
theorem valid_initialSheet {d : Directory} {sheet : Option String} {delimiter : Char} {s : Sheet}
    (h : initialSheet d sheet delimiter = .ok s) : s.Valid := by
  cases sheet with
  | some path => exact Sheet.Valid.of_load (loadSheet_eq_ok_iff.mp h).2
  | none =>
      rw [← Except.ok.inj h]
      exact Sheet.valid_empty _ _ _

/-- An assignment that is carried out names a cell within the limits. -/
theorem exists_assigns_of_assign {s s' : Sheet} (h : assign s x = .ok s') :
    ∃ a text, Assigns x a text := by
  rcases Attempt.bind_eq_ok_iff.mp h with ⟨⟨cell, text⟩, hsplit, hwrite⟩
  rcases Attempt.bind_eq_ok_iff.mp (Attempt.mapError_eq_ok_iff.mp hwrite) with ⟨a, ha, -⟩
  exact ⟨a, text, cell, (splitAssignment_eq_ok_iff.mp hsplit).2, ha⟩

/-- Assignments keep the invariant. -/
theorem valid_assign {s s' : Sheet} (hs : s.Valid) (h : assign s x = .ok s') : s'.Valid := by
  rcases Attempt.bind_eq_ok_iff.mp h with ⟨⟨cell, text⟩, -, hwrite⟩
  exact hs.writeA1 (Attempt.mapError_eq_ok_iff.mp hwrite)

/-- Assignments that cannot all be carried out fail with the first of them that
    cannot. -/
theorem exists_firstFault (h : ¬ Feasible assignments) (s : Sheet) :
    ∃ f, Attempt.FirstFault AssignmentFault assignments f ∧
      assignments.foldlM assign s = .error f := by
  have hstep : ∀ x ∈ assignments, ∀ (s : Sheet) (f : Failure),
      assign s x = .error f ↔ AssignmentFault x f := fun _ _ _ _ => assign_eq_error_iff
  cases hfold : assignments.foldlM assign s with
  | error f => exact ⟨f, (Attempt.foldlM_eq_error_iff hstep s).mp hfold, rfl⟩
  | ok s' =>
      have hfeasible : Feasible assignments := by
        intro x hx
        rcases Attempt.exists_of_foldlM hfold x hx with ⟨t, t', hassign⟩
        exact exists_assigns_of_assign hassign
      exact absurd hfeasible h

section Run

variable {d : Directory} {formula : String} {sheet : Option String} {delimiter : Char}

/-- Once its sheet is there, `eval` cannot fail: it prints the shown text and
    leaves the files alone. -/
theorem run_eval_of_ok {s : Sheet} (h : evalSheet d sheet assignments delimiter = .ok s) :
    run d (.eval formula sheet assignments delimiter) =
      ⟨0, Csv.textBytes (s.grid.shown formula ++ "\n"), "", d⟩ := by
  refine run_of_ok ?_
  rw [run?, runEval, h]
  rfl

theorem run_eval_of_error {f : Failure} (h : evalSheet d sheet assignments delimiter = .error f) :
    run d (.eval formula sheet assignments delimiter) = ⟨failureCode, [], f.report, d⟩ := by
  refine run_of_error ?_
  rw [run?, runEval, h]
  rfl

theorem run_eval_of_initialSheet {f : Failure} (h : initialSheet d sheet delimiter = .error f) :
    run d (.eval formula sheet assignments delimiter) = ⟨failureCode, [], f.report, d⟩ := by
  refine run_eval_of_error ?_
  rw [evalSheet_eq, h]
  rfl

variable {s : Sheet} (hs : initialSheet d sheet delimiter = .ok s)
include hs

/-- Assignments that cannot all be carried out stop `eval` at the first that is
    at fault, before it prints anything. -/
theorem run_eval_of_not_feasible (h : ¬ Feasible assignments) :
    ∃ f, Attempt.FirstFault AssignmentFault assignments f ∧
      run d (.eval formula sheet assignments delimiter) = ⟨failureCode, [], f.report, d⟩ := by
  rcases exists_firstFault h s with ⟨f, hfault, hfold⟩
  refine ⟨f, hfault, run_eval_of_error ?_⟩
  rw [evalSheet_eq, hs]
  exact hfold

/-- An evaluation whose assignments can all be carried out prints what the
    formula shows next to the texts that are there in the end. -/
theorem run_eval_of_writes (h : List.Forall₂ IsWrite assignments writes) :
    run d (.eval formula sheet assignments delimiter) =
      ⟨0, Csv.textBytes ((Grid.mk (s.storeAll writes).text none).shown formula ++ "\n"), "", d⟩ := by
  have hfold := foldlM_assign h s
  have hvalid : (s.storeAll writes).Valid :=
    Attempt.foldlM_preserves (P := Sheet.Valid) (fun _ _ _ hs hstep => valid_assign hs hstep)
      assignments s _ (valid_initialSheet hs) hfold
  have heval : evalSheet d sheet assignments delimiter = .ok (s.storeAll writes) := by
    rw [evalSheet_eq, hs]
    exact hfold
  -- The size that the sheet has grown to is of no account.
  rw [run_eval_of_ok heval, Grid.shown, hvalid.value_grid]
  rfl

/-- The last texts for the cells are all that counts. -/
theorem run_eval_congr {assignments' : List String} (h : Feasible assignments)
    (h' : Feasible assignments')
    (hlast : ∀ a text, LastAssigned assignments' a text ↔ LastAssigned assignments a text) :
    run d (.eval formula sheet assignments' delimiter) =
      run d (.eval formula sheet assignments delimiter) := by
  rcases exists_writes h with ⟨writes, hwrites⟩
  rcases exists_writes h' with ⟨writes', hwrites'⟩
  rw [run_eval_of_writes hs hwrites, run_eval_of_writes hs hwrites',
    text_storeAll_congr hwrites hwrites' hlast s]

end Run

/-- An evaluation fails for the sheet that cannot be loaded, or else for the
    first assignment that cannot be carried out, and prints nothing. Otherwise
    it prints what the formula shows, and a line end behind it, in a grid without
    a size where each cell holds the text that it is given last, or else what
    was loaded; so nothing counts but the last text for each cell. -/
theorem run_eval_outcome (d : Directory) (formula : String) (sheet : Option String)
    (assignments : List String) (delimiter : Char) :
    (∀ x cell text, splitAssignment x = .ok (cell, text) ↔ cell ≠ "" ∧ Splits x cell text) ∧
    ((run d (.eval formula sheet assignments delimiter)).code = 0 ↔
      (∃ s, initialSheet d sheet delimiter = .ok s) ∧ Feasible assignments) ∧
    (∀ f, initialSheet d sheet delimiter = .error f →
      run d (.eval formula sheet assignments delimiter) = ⟨failureCode, [], f.report, d⟩) ∧
    ∀ s, initialSheet d sheet delimiter = .ok s →
      (¬ Feasible assignments → ∃ f, Attempt.FirstFault AssignmentFault assignments f ∧
        run d (.eval formula sheet assignments delimiter) = ⟨failureCode, [], f.report, d⟩) ∧
      (Feasible assignments →
        (∃ after, TextsAfter assignments s.text after ∧
          run d (.eval formula sheet assignments delimiter) =
            ⟨0, Csv.textBytes ((Grid.mk after none).shown formula ++ "\n"), "", d⟩ ∧
          Utf8.decode? (run d (.eval formula sheet assignments delimiter)).output =
            some ((Grid.mk after none).shown formula ++ "\n").toList) ∧
        ∀ assignments', Feasible assignments' →
          (∀ a text, LastAssigned assignments' a text ↔ LastAssigned assignments a text) →
            run d (.eval formula sheet assignments' delimiter) =
              run d (.eval formula sheet assignments delimiter)) := by
  refine ⟨fun x cell text => splitAssignment_eq_ok_iff, ?_, fun f hf => run_eval_of_initialSheet hf,
    fun s hs => ⟨run_eval_of_not_feasible hs, fun h => ⟨?_, fun assignments' h' hlast =>
      run_eval_congr hs h h' hlast⟩⟩⟩
  · -- The formula itself cannot fail, so the code tells about the sheet alone.
    have hcode : failureCode ≠ 0 := by decide
    cases hs : initialSheet d sheet delimiter with
    | error f =>
        simp only [run_eval_of_initialSheet hs, hcode, reduceCtorEq, exists_false, false_and]
    | ok s =>
        rw [and_iff_right ⟨s, rfl⟩]
        by_cases h : Feasible assignments
        · rcases exists_writes h with ⟨writes, hwrites⟩
          rw [run_eval_of_writes hs hwrites]
          exact iff_of_true rfl h
        · rcases @run_eval_of_not_feasible _ d formula _ _ s hs h with ⟨f, -, hrun⟩
          rw [hrun]
          exact iff_of_false hcode h
  · rcases exists_writes h with ⟨writes, hwrites⟩
    rw [run_eval_of_writes hs hwrites]
    exact ⟨_, textsAfter_storeAll hwrites s, rfl, Csv.decode?_textBytes _⟩

/-- A cell that is given its text under two spellings, a far one that is cleared
    again, and one number, whose two digits are printed. -/
theorem run_eval_outcome_overwritten :
    let assignments := ["A1=5", "Z99=7", " $a$1 =x=y", "z99=", "b2=12"]
    Feasible assignments ∧
      (∃ after : Address → String, after ⟨0, 0⟩ = "x=y" ∧ after ⟨98, 25⟩ = "" ∧
        Utf8.decode? (run (.flat []) (.eval "=SUM(A1:C3)" none assignments ',')).output =
          some ((Grid.mk after none).shown "=SUM(A1:C3)" ++ "\n").toList) ∧
      (run (.flat []) (.eval "=SUM(A1:C3)" none assignments ',')).output = [49, 50, 10] := by
  intro assignments
  have h₀ : Assigns "A1=5" ⟨0, 0⟩ "5" :=
    ⟨"A1", ⟨"A1".toList, by decide, by decide, by decide⟩, by decide⟩
  have h₁ : Assigns "Z99=7" ⟨98, 25⟩ "7" :=
    ⟨"Z99", ⟨"Z99".toList, by decide, by decide, by decide⟩, by decide⟩
  have h₂ : Assigns " $a$1 =x=y" ⟨0, 0⟩ "x=y" :=
    ⟨"$a$1", ⟨" $a$1 ".toList, by decide, by decide, by decide⟩, by decide⟩
  have h₃ : Assigns "z99=" ⟨98, 25⟩ "" :=
    ⟨"z99", ⟨"z99".toList, by decide, by decide, by decide⟩, by decide⟩
  have h₄ : Assigns "b2=12" ⟨1, 1⟩ "12" :=
    ⟨"b2", ⟨"b2".toList, by decide, by decide, by decide⟩, by decide⟩
  have hfeasible : Feasible assignments := by
    simp only [assignments, Feasible, List.forall_mem_cons]
    exact ⟨⟨_, _, h₀⟩, ⟨_, _, h₁⟩, ⟨_, _, h₂⟩, ⟨_, _, h₃⟩, ⟨_, _, h₄⟩,
      fun _ h => absurd h List.not_mem_nil⟩
  have hnear : LastAssigned assignments ⟨0, 0⟩ "x=y" := by
    refine (lastAssigned_head h₂ ?_).cons.cons
    simp only [List.forall_mem_cons]
    exact ⟨fun u h => absurd (h₃.eq h).1 (by decide), fun u h => absurd (h₄.eq h).1 (by decide),
      fun _ h => absurd h List.not_mem_nil⟩
  have hfar : LastAssigned assignments ⟨98, 25⟩ "" := by
    refine (lastAssigned_head h₃ (List.forall_mem_singleton.mpr fun u h => ?_)).cons.cons.cons
    exact absurd (h₄.eq h).1 (by decide)
  have hnumber : LastAssigned assignments ⟨1, 1⟩ "12" :=
    (lastAssigned_head h₄ fun _ h => absurd h List.not_mem_nil).cons.cons.cons.cons
  rcases ((run_eval_outcome (.flat []) "=SUM(A1:C3)" none assignments ',').2.2.2 _ rfl).2 hfeasible
    with ⟨⟨after, hafter, hrun, hdecode⟩, -⟩
  refine ⟨hfeasible, ⟨after, (hafter _).1 _ hnear, (hafter _).1 _ hfar, hdecode⟩, ?_⟩
  -- The cells that are not assigned to hold nothing, so these are all texts there are.
  have htexts : after = fun a => if a = ⟨0, 0⟩ then "x=y" else if a = ⟨1, 1⟩ then "12" else "" := by
    funext a
    by_cases hzero : a = ⟨0, 0⟩
    · rw [if_pos hzero, hzero, (hafter _).1 _ hnear]
    · by_cases hone : a = ⟨1, 1⟩
      · rw [if_neg hzero, if_pos hone, hone, (hafter _).1 _ hnumber]
      · rw [if_neg hzero, if_neg hone]
        by_cases hlast : a = ⟨98, 25⟩
        · rw [hlast, (hafter _).1 _ hfar]
        · refine (hafter a).2 ?_
          simp only [assignments, List.forall_mem_cons]
          exact ⟨fun u h => hzero (h₀.eq h).1.symm, fun u h => hlast (h₁.eq h).1.symm,
            fun u h => hzero (h₂.eq h).1.symm, fun u h => hlast (h₃.eq h).1.symm,
            fun u h => hone (h₄.eq h).1.symm, fun _ h => absurd h List.not_mem_nil⟩
  have hshown : (Grid.mk after none).shown "=SUM(A1:C3)" = "12" := by
    have hvalue : (Grid.mk after none).value "=SUM(A1:C3)" = .number (.ofNat 12) := by
      rw [htexts]
      decide +kernel
    rw [Grid.shown, hvalue]
    exact (Number.isInteger_ofNat (by decide)).text (by decide)
  rw [hrun, hshown]
  decide

end Command

end Worksheet
