import Worksheet.Proofs.Command.Rendering

/-!
# What Commands Do to Files

No command touches a file, except that a rendering may create its target.

A rendering has everything that it writes before it creates its target, and
nothing can go wrong behind that. So a command that fails has not touched a
file, for whatever reason it fails, and a rendering that succeeds has touched
its target at most. It does not even do that for a sheet that holds nothing.

What is written is settled by the bytes that the input held, the delimiter and
the choice of raw texts. The name of the sheet, which comes from the path, is
not written, and the input is read before the target is created. So it does
not matter whether the target is the input.

## Main definitions

* `Command.written?`: What a rendering of a sheet writes, if anything.
* `Command.rendition`: What a rendering writes for the bytes of its input.
* `Command.FilesAfter`: The files when that has been written.
* `Command.Renders`: What it takes for a rendering into a file to succeed.

## Theorems

* `Command.exists_loadSheet_iff`: What is written comes from the bytes alone.
* `Command.of_run?_render`, `Command.exists_run?_render`: When a rendering
  succeeds, and the files behind it.
* `Command.of_run?`: What a command that succeeds has done.
* `Command.code_run_render_iff`, `Command.filesAfter_run_render`: The same for
  a rendering into a file, from the bytes of its input.
* `Command.runArguments_files`: What some arguments do to files.
-/

namespace Worksheet

namespace Command

/-- What a rendering of a sheet writes; none when it holds nothing. -/
def written? (s : Sheet) (raw : Bool) (delimiter : Char) : Option (List UInt8) :=
  if s.isEmpty then none else some (exported s raw delimiter)

/-- What a rendering writes for the bytes of its input; none when the sheet
    that they hold is empty. -/
def rendition (bytes : List UInt8) (raw : Bool) (delimiter : Char) :
    Except Csv.Error (Option (List UInt8)) :=
  (Csv.read ⟨.delimitedBy (UInt8.ofNat delimiter.toNat), false⟩ bytes).map fun s =>
    written? s raw delimiter

/-- The files after something has been written, or nothing. What goes to the
    output goes to no file. -/
def FilesAfter (d : Directory) (output : Option String) (written : Option (List UInt8))
    (after : Directory) : Prop :=
  match output, written with
  | some target, some new => d.create target new = .ok after
  | _, _ => after = d

/-- A rendering into a file has what it takes to succeed, and this is what it
    writes: the delimiter is a single byte, the input can be read and holds a
    sheet, and the target can be created unless there is nothing to write. -/
def Renders (d : Directory) (input target : String) (raw : Bool) (delimiter : Char)
    (written : Option (List UInt8)) : Prop :=
  delimiter.toNat < 128 ∧
    (∃ content, d.read input = .ok content ∧ rendition content raw delimiter = .ok written) ∧
    (written ≠ none → d.CanCreate target)

variable {d after : Directory} {input target : String} {output : Option String} {raw : Bool}
  {delimiter : Char} {written : Option (List UInt8)} {s : Sheet} {o : Outcome}

/-- An empty sheet is not written. -/
theorem written?_of_isEmpty (h : s.isEmpty = true) : written? s raw delimiter = none :=
  if_pos h

theorem written?_of_isEmpty_eq_false (h : s.isEmpty = false) :
    written? s raw delimiter = some (exported s raw delimiter) :=
  if_neg (Bool.eq_false_iff.mp h)

/-- The name is not written. -/
theorem written?_calledLike (u : Sheet) (path : String) :
    written? (u.calledLike path) raw delimiter = written? u raw delimiter := by
  rw [Sheet.calledLike]
  cases (Path.ofString path).stem? with
  | some name => cases raw <;> rfl
  | none => rfl

/-- What is written for the sheet in a file is settled by the bytes of the
    file. -/
theorem exists_loadSheet_iff :
    (∃ s, loadSheet d input delimiter = .ok s ∧ written? s raw delimiter = written) ↔
      delimiter.toNat < 128 ∧
        ∃ content, d.read input = .ok content ∧ rendition content raw delimiter = .ok written := by
  simp only [loadSheet_eq_ok_iff, Sheet.load_eq_ok_iff, rendition, Attempt.map_eq_ok_iff]
  constructor
  · rintro ⟨_, ⟨hascii, content, u, hcontent, hread, rfl⟩, hwritten⟩
    rw [written?_calledLike] at hwritten
    exact ⟨hascii, content, hcontent, u, hread, hwritten⟩
  · rintro ⟨hascii, content, hcontent, u, hread, hwritten⟩
    refine ⟨_, ⟨hascii, content, u, hcontent, hread, rfl⟩, ?_⟩
    rw [written?_calledLike, hwritten]

/-- The files after a `render` exist unless there is something to write and the
    target cannot be created. -/
theorem exists_filesAfter_iff :
    (∃ after, FilesAfter d (some target) written after) ↔ (written ≠ none → d.CanCreate target) := by
  cases written with
  | none => exact ⟨fun _ h => absurd rfl h, fun _ => ⟨d, rfl⟩⟩
  | some new =>
      simp only [FilesAfter, Directory.create_eq_ok_iff, exists_and_left, exists_eq', and_true, ne_eq,
        reduceCtorEq, not_false_eq_true, forall_const]

/-- Whatever a `render` leaves differs from what was there at its target
    only. -/
theorem sameBut_of_filesAfter (h : FilesAfter d (some target) written after) :
    Directory.SameBut target d after := by
  cases written with
  | none => exact h ▸ Directory.sameBut_refl target d
  | some new => exact Directory.sameBut_of_create h

/-- On an empty sheet `render` warns, succeeds and leaves the files alone. -/
theorem runRender_of_isEmpty (h : loadSheet d input delimiter = .ok s) (hs : s.isEmpty = true) :
    runRender d input output raw delimiter =
      .ok ⟨0, [], "Warning: Sheet appears to be empty\n", d⟩ := by
  have hvalid := Sheet.Valid.of_load (loadSheet_eq_ok_iff.mp h).2
  rw [runRender, h]
  simp only [bind, Except.bind, rows_displayUsed_isEmpty hvalid, hs, if_true]
  rfl

/-- A rendering that succeeds has loaded a sheet and written it. -/
theorem of_run?_render (h : run? d (.render input output raw delimiter) = .ok o) :
    o.code = 0 ∧ ∃ s, loadSheet d input delimiter = .ok s ∧
      FilesAfter d output (written? s raw delimiter) o.directory := by
  rw [run?] at h
  rcases Attempt.bind_eq_ok_iff.mp h with ⟨s, hload, -⟩
  cases hs : s.isEmpty with
  | true =>
      rw [runRender_of_isEmpty hload hs, Except.ok.injEq] at h
      rw [← h]
      refine ⟨rfl, s, hload, ?_⟩
      rw [written?_of_isEmpty hs]
      cases output <;> rfl
  | false =>
      rw [runRender_of_load hload hs] at h
      cases output with
      | none =>
          rw [← Except.ok.inj h]
          exact ⟨rfl, s, hload, rfl⟩
      | some target =>
          rcases Attempt.map_eq_ok_iff.mp h with ⟨after, hcreate, rfl⟩
          refine ⟨rfl, s, hload, ?_⟩
          rw [written?_of_isEmpty_eq_false hs]
          exact Attempt.mapError_eq_ok_iff.mp hcreate

/-- A sheet that was loaded is rendered when it can be written. -/
theorem exists_run?_render (h : loadSheet d input delimiter = .ok s)
    (hafter : FilesAfter d output (written? s raw delimiter) after) :
    ∃ o, run? d (.render input output raw delimiter) = .ok o ∧ o.directory = after := by
  rw [run?]
  cases hs : s.isEmpty with
  | true =>
      rw [written?_of_isEmpty hs] at hafter
      refine ⟨_, runRender_of_isEmpty h hs, ?_⟩
      cases output <;> exact hafter.symm
  | false =>
      rw [written?_of_isEmpty_eq_false hs] at hafter
      rw [runRender_of_load h hs]
      cases output with
      | none => exact ⟨_, rfl, hafter.symm⟩
      | some target =>
          exact ⟨_, Attempt.map_eq_ok_iff.mpr
            ⟨after, Attempt.mapError_eq_ok_iff.mpr hafter, rfl⟩, rfl⟩

/-- A command that succeeds has left all files alone, or it is a rendering and
    has written its target. -/
theorem of_run? {c : Command} (h : run? d c = .ok o) :
    o.code = 0 ∧ (o.directory = d ∨ ∃ input target raw delimiter written,
      c = .render input (some target) raw delimiter ∧
        FilesAfter d (some target) written o.directory) := by
  cases c with
  | eval formula sheet assignments delimiter =>
      rcases Attempt.bind_eq_ok_iff.mp h with ⟨s, -, hs⟩
      rw [← Except.ok.inj hs]
      exact ⟨rfl, .inl rfl⟩
  | info input =>
      rcases Attempt.bind_eq_ok_iff.mp h with ⟨s, -, hs⟩
      rw [← Except.ok.inj hs]
      exact ⟨rfl, .inl rfl⟩
  | render input output raw delimiter =>
      rcases of_run?_render h with ⟨hcode, s, -, hafter⟩
      cases output with
      | none => exact ⟨hcode, .inl hafter⟩
      | some target => exact ⟨hcode, .inr ⟨input, target, raw, delimiter, _, rfl, hafter⟩⟩

/-- A command that fails has left all files alone. -/
theorem directory_run_of_code {c : Command} (h : (run d c).code ≠ 0) : (run d c).directory = d := by
  cases hrun : run? d c with
  | error f => rw [run_of_error hrun]
  | ok o =>
      rw [run_of_ok hrun] at h
      exact absurd (of_run? hrun).1 h

/-- Every command but `render` with an output file leaves the files alone. -/
theorem directory_run_of_forall_ne {c : Command}
    (h : ∀ input target raw delimiter, c ≠ .render input (some target) raw delimiter) :
    (run d c).directory = d := by
  cases hrun : run? d c with
  | error f => rw [run_of_error hrun]
  | ok o =>
      rw [run_of_ok hrun]
      rcases (of_run? hrun).2 with hsame | ⟨input, target, raw, delimiter, -, hc, -⟩
      · exact hsame
      · exact absurd hc (h input target raw delimiter)

/-- A rendering into a file that has what it takes succeeds and writes. -/
theorem filesAfter_run_render (h : Renders d input target raw delimiter written) :
    (run d (.render input (some target) raw delimiter)).code = 0 ∧
      FilesAfter d (some target) written
        (run d (.render input (some target) raw delimiter)).directory := by
  rcases h with ⟨hascii, hcontent, htarget⟩
  rcases exists_loadSheet_iff.mpr ⟨hascii, hcontent⟩ with ⟨s, hload, rfl⟩
  rcases exists_filesAfter_iff.mpr htarget with ⟨after, hafter⟩
  rcases exists_run?_render hload hafter with ⟨o, hrun, rfl⟩
  rw [run_of_ok hrun]
  exact ⟨(of_run?_render hrun).1, hafter⟩

/-- The code of `render` is 0 exactly when its input could be loaded and its
    output, if there is any, be written. -/
theorem code_run_render_iff : (run d (.render input (some target) raw delimiter)).code = 0 ↔
    ∃ written, Renders d input target raw delimiter written := by
  refine ⟨fun h => ?_, fun ⟨written, h⟩ => (filesAfter_run_render h).1⟩
  cases hrun : run? d (.render input (some target) raw delimiter) with
  | error f =>
      rw [run_of_error hrun] at h
      exact absurd h (by decide : failureCode ≠ 0)
  | ok o =>
      rcases of_run?_render hrun with ⟨-, s, hload, hafter⟩
      rcases exists_loadSheet_iff.mp ⟨s, hload, rfl⟩ with ⟨hascii, hcontent⟩
      exact ⟨_, hascii, hcontent, exists_filesAfter_iff.mp ⟨_, hafter⟩⟩

/-- Whether it succeeds or fails, `render` touches no file but its target. -/
theorem sameBut_run_render :
    Directory.SameBut target d (run d (.render input (some target) raw delimiter)).directory := by
  by_cases h : (run d (.render input (some target) raw delimiter)).code = 0
  · rcases code_run_render_iff.mp h with ⟨written, hrenders⟩
    exact sameBut_of_filesAfter (filesAfter_run_render hrenders).2
  · rw [directory_run_of_code h]
    exact Directory.sameBut_refl target d

/-- Arguments that fail leave all files as they were, whatever the reason, and
    so do all that do not ask for a rendering into a file. A rendering into a
    file leaves all files but its target as they were, and the target as well
    when the sheet holds nothing. Otherwise the target is read as what is
    written, which is settled by the bytes that the input held before, the
    delimiter and the choice of raw texts. -/
theorem runArguments_files (d : Directory) (arguments : List String) :
    ((runArguments d arguments).code ≠ 0 → (runArguments d arguments).directory = d) ∧
    ((∀ input target raw delimiter,
        ofArguments? arguments ≠ some (.render input (some target) raw delimiter)) →
      (runArguments d arguments).directory = d) ∧
    ∀ input target raw delimiter,
      ofArguments? arguments = some (.render input (some target) raw delimiter) →
        Directory.SameBut target d (runArguments d arguments).directory ∧
        ((runArguments d arguments).code = 0 ↔
          ∃ written, Renders d input target raw delimiter written) ∧
        (Renders d input target raw delimiter none → (runArguments d arguments).directory = d) ∧
        ∀ new, Renders d input target raw delimiter (some new) →
          (runArguments d arguments).directory.read target = .ok new := by
  cases hc : ofArguments? arguments with
  | none =>
      have hrun : runArguments d arguments = ⟨usageCode, [], usage, d⟩ := by
        rw [runArguments, hc]
      rw [hrun]
      exact ⟨fun _ => rfl, fun _ => rfl, fun _ _ _ _ h => absurd h (by rintro ⟨⟩)⟩
  | some c =>
      have hrun : runArguments d arguments = run d c := by
        rw [runArguments, hc]
      rw [hrun]
      refine ⟨directory_run_of_code, fun h => ?_, fun input target raw delimiter h => ?_⟩
      · exact directory_run_of_forall_ne fun input target raw delimiter hcommand =>
          h input target raw delimiter (congrArg some hcommand)
      · rw [Option.some.inj h]
        exact ⟨sameBut_run_render, code_run_render_iff,
          fun hrenders => (filesAfter_run_render hrenders).2,
          fun new hrenders => (Directory.read_of_create (filesAfter_run_render hrenders).2).1⟩

/-- A file that is rendered into itself, under another spelling of its path,
    next to a file that stays. -/
theorem runArguments_files_in_place :
    let d := Directory.flat [("in.csv", Csv.textBytes "=1/0;a\n"), ("other.csv", [120])]
    let arguments := ["render", "in.csv", "--output", "./in.csv", "-d", ";"]
    (runArguments d arguments).code = 0 ∧
      (runArguments d arguments).directory.read "./in.csv" = .ok (Csv.textBytes "#DIV/0;a\n") ∧
      (runArguments d arguments).directory.content? "other.csv" = some [120] := by
  intro d arguments
  have hcommand : ofArguments? arguments = some (.render "in.csv" (some "./in.csv") false ';') := by
    decide +kernel
  have hrendition : rendition (Csv.textBytes "=1/0;a\n") false ';' =
      .ok (some (Csv.textBytes "#DIV/0;a\n")) :=
    Attempt.toOption_eq_some_iff.mp (by decide +kernel)
  have hrenders : Renders d "in.csv" "./in.csv" false ';' (some (Csv.textBytes "#DIV/0;a\n")) := by
    refine ⟨by decide, ⟨_, ?_, hrendition⟩, fun _ => ?_⟩
    · exact Attempt.toOption_eq_some_iff.mp (by decide +kernel)
    · exact ⟨by decide +kernel, by decide +kernel, by decide +kernel, by decide +kernel⟩
  rcases (runArguments_files d arguments).2.2 _ _ _ _ hcommand with ⟨hsame, hcode, -, hread⟩
  refine ⟨hcode.mpr ⟨_, hrenders⟩, hread _ hrenders, ?_⟩
  rw [hsame.2 "other.csv" (by decide +kernel)]
  decide +kernel

end Command

end Worksheet
