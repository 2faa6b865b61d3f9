import Worksheet.Csv.Reader
import Worksheet.Proofs.Attempt
import Worksheet.Sheet.Saved

/-!
# Operations on Sheets

Everything that can happen to a sheet, as data, and the sheets that any order
of it leads to.

A change works on a sheet and gives one back, or fails. Beginning anew with an
empty sheet counts as a change, so that a history of changes is any list of
them. The other operations put a sheet that comes from outside in the place of
the one at hand: a saved form, or the content of a file.

An operation that fails leaves the sheet as it was, and the history goes on.
That is what `settle` says, and with it a history never gets stuck: `run` is a
plain fold, and a property that every operation preserves holds at its end by
induction on the list.

## Main definitions

* `Sheet.Change`: What can be done to a sheet.
* `Sheet.change`: The sheet after a change, unless it fails.
* `Sheet.Operation`: A change, or another sheet in place of the one at hand.
* `Sheet.perform`: The sheet after an operation, unless it fails.
* `Sheet.settle`: What is there after an attempt.
* `Sheet.runChanges`, `Sheet.run`: The sheet after a history.
* `Sheet.Reachable`: A sheet that some history leads to.

## Theorems

* `Reachable.perform`: One more operation leads to a reachable sheet.
* `reachable_of_sheet`, `reachable_of_ofJson`, `reachable_of_read`: Sheets from
  outside are reachable.
-/

namespace Worksheet

namespace Sheet

/-- What can be done to a sheet. -/
inductive Change where
  /-- Begin with an empty sheet of the default size. -/
  | fresh (name : String)
  /-- Begin with an empty sheet of a size. -/
  | empty (name : String) (rows cols : UInt32)
  /-- Give the sheet another name. -/
  | rename (name : String)
  /-- Put a text in a cell. -/
  | write (a : Address) (text : String)
  /-- Put a text in the cell that an A1 address names. -/
  | writeA1 (address text : String)
  /-- Empty a cell. -/
  | clear (a : Address)
  /-- Empty the cell that an A1 address names. -/
  | clearA1 (address : String)
  /-- Give the sheet another size. -/
  | resize (rows cols : UInt32)

/-- The sheet after a change, unless the change fails. -/
def change (s : Sheet) : Change → Except Address.Error Sheet
  | .fresh name => .ok (fresh name)
  | .empty name rows cols => .ok (empty name rows cols)
  | .rename name => .ok (s.rename name)
  | .write a text => (s.write a text).mapError .outOfBounds
  | .writeA1 address text => s.writeA1 address text
  | .clear a => .ok (s.clear a)
  | .clearA1 address => s.clearA1 address
  | .resize rows cols => .ok (s.resize rows cols)

/-- What can happen to a sheet. -/
inductive Operation where
  /-- The sheet is changed. -/
  | change (c : Change)
  /-- The sheet that a saved form describes takes its place. -/
  | restore (saved : Saved)
  /-- The sheet that some bytes hold takes its place. -/
  | read (options : Csv.ReadOptions) (bytes : List UInt8)

/-- Why an operation fails. -/
inductive Failure where
  /-- An address is none or lies beyond the limits. -/
  | address (cause : Address.Error)
  /-- The bytes are not the content of a sheet. -/
  | content (cause : Csv.Error)

/-- The sheet after an operation, unless the operation fails. -/
def perform (s : Sheet) : Operation → Except Failure Sheet
  | .change c => (s.change c).mapError .address
  | .restore saved => saved.sheet.mapError .address
  | .read options bytes => (Csv.read options bytes).mapError .content

/-- The sheet after an attempt, which is the sheet before it when it fails. -/
def settle {ε : Type} (s : Sheet) : Except ε Sheet → Sheet
  | .ok s' => s'
  | .error _ => s

/-- The sheet after some changes, those that fail being passed over. -/
def runChanges (s : Sheet) (changes : List Change) : Sheet :=
  changes.foldl (fun s c => s.settle (s.change c)) s

/-- The sheet after some operations, those that fail being passed over. -/
def run (s : Sheet) (operations : List Operation) : Sheet :=
  operations.foldl (fun s o => s.settle (s.perform o)) s

/-- A sheet that some operations on a new sheet lead to. -/
def Reachable (s : Sheet) : Prop :=
  ∃ name rows cols operations, run (empty name rows cols) operations = s

theorem run_append (s : Sheet) (before after : List Operation) :
    s.run (before ++ after) = (s.run before).run after := by
  rw [run, List.foldl_append, run, run]

theorem Reachable.perform {s s' : Sheet} {o : Operation} (hs : s.Reachable)
    (h : s.perform o = .ok s') : s'.Reachable := by
  rcases hs with ⟨name, rows, cols, operations, hrun⟩
  -- The history that leads to `s`, and the operation behind it.
  refine ⟨name, rows, cols, operations ++ [o], ?_⟩
  rw [run_append, hrun, run, List.foldl_cons, List.foldl_nil, h, settle]

theorem reachable_empty (name : String) (rows cols : UInt32) : (empty name rows cols).Reachable :=
  ⟨name, rows, cols, [], rfl⟩

theorem reachable_of_sheet {saved : Saved} {s : Sheet} (h : saved.sheet = .ok s) : s.Reachable := by
  refine (reachable_empty "" 0 0).perform (o := .restore saved) ?_
  exact Attempt.mapError_eq_ok_iff.mpr h

/-- A JSON value describes a sheet only through its saved form. -/
theorem reachable_of_ofJson {json : Json} {s : Sheet} (h : ofJson json = .ok s) :
    s.Reachable := by
  rcases Attempt.bind_eq_ok_iff.mp h with ⟨saved, -, hsheet⟩
  exact reachable_of_sheet (Attempt.mapError_eq_ok_iff.mp hsheet)

theorem reachable_of_read {options : Csv.ReadOptions} {bytes : List UInt8} {s : Sheet}
    (h : Csv.read options bytes = .ok s) : s.Reachable := by
  refine (reachable_empty "" 0 0).perform (o := .read options bytes) ?_
  exact Attempt.mapError_eq_ok_iff.mpr h

end Sheet

end Worksheet
