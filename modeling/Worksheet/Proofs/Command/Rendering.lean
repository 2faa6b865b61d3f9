import Worksheet.Command.Run
import Worksheet.Proofs.Sheet.Display
import Worksheet.Proofs.Sheet.File

/-!
# Rendering and Exporting Agree

That a rendering writes what a sheet is exported as.

A rendering displays the sheet once, as far as its used range goes, and writes
the rows of the display. An export goes over the same rectangle by itself and
evaluates the cells one by one. A sheet that was loaded is valid, so it has
rows to write as soon as it holds anything, and the display has the rows that
an export has. It does not matter where the bytes go.

The counts that are reported come from the display. A description of the same
sheet displays its whole size, and counts the same.

## Main definitions

* `countsLine`, `writtenLine`: What a rendering reports.
* `countLines`: What a description says about formulas.
* `exported`: What an export of a sheet writes.

## Theorems

* `renderedBytes_eq_exported`: A rendering writes what an export writes.
* `counts_of_valid`: The counts of both displays.
* `run_of_ok`, `run_of_error`: Commands that succeed and commands that fail.
* `runRender_of_load`: How far a rendering of a sheet that was loaded gets.
* `exists_infoLines`: The end of a description.
* `run_render_eq_export`: All that a rendering leaves behind.
-/

namespace Worksheet

namespace Command

/-- What a rendering reports about formulas. -/
def countsLine (formulas faults : Nat) : String :=
  s!"Evaluated {formulas} formulas ({faults} errors)\n"

/-- What a rendering reports about its target. -/
def writtenLine (rows : UInt32) (path : String) : String :=
  s!"Wrote {rows} rows to '{path}'\n"

/-- What a description says about formulas, at its end. -/
def countLines (formulas faults : Nat) : List String :=
  [s!"  Formulas: {formulas}", s!"  Errors: {faults}"]

/-- What an export of a sheet writes, of its raw texts or of what it shows. -/
def exported (s : Sheet) (raw : Bool) (delimiter : Char) : List UInt8 :=
  Csv.write ⟨.delimitedBy (UInt8.ofNat delimiter.toNat), .lf, if raw then .raw else .shown⟩ s

/-- The bytes `render` makes of the displayed used range are those of the export
    of the sheet. -/
theorem renderedBytes_eq_exported (s : Sheet) (raw : Bool) (delimiter : Char) :
    renderedBytes s s.displayUsed raw (UInt8.ofNat delimiter.toNat) = exported s raw delimiter := by
  cases raw with
  | true => rfl
  | false =>
      rw [renderedBytes, exported, if_neg Bool.false_ne_true, if_neg Bool.false_ne_true, Csv.write,
        s.contentRows_shown]

/-- A valid sheet has rows to render exactly when it holds anything. -/
theorem rows_displayUsed_isEmpty {s : Sheet} (hs : s.Valid) :
    s.displayUsed.rows.isEmpty = s.isEmpty := by
  rw [Sheet.displayUsed, Sheet.rows_displayOf, List.isEmpty_map]
  rcases hused : s.usedRange? with _ | r
  · rw [s.isEmpty_iff.mpr hused, Sheet.usedSize, hused]
    rfl
  · have hempty : s.isEmpty = false := by
      rw [← Bool.not_eq_true, s.isEmpty_iff, hused]
      exact Option.some_ne_none r
    rw [hempty, List.isEmpty_eq_false_iff, ← List.length_pos_iff, Sheet.length_rectangle,
      (hs.toNat_usedSize hused).1]
    exact Nat.succ_pos _

/-- Both displays of a valid sheet count the formulas and faults it stores. -/
theorem counts_of_valid {s : Sheet} (hs : s.Valid) :
    (s.displayUsed.formulas = s.formulaCells.ncard ∧ s.displayUsed.faults = s.faultCells.ncard) ∧
      s.display.formulas = s.formulaCells.ncard ∧ s.display.faults = s.faultCells.ncard :=
  ⟨Sheet.counts_displayOf fun _ ha => hs.lt_usedSize ha, Sheet.counts_displayOf fun a ha =>
    hs.inside a ((Sheet.mem_cells_iff_text s hs.nonempty a).mpr ha)⟩

/-- The outcome of a command that does not fail is what its handler answers. -/
theorem run_of_ok {d : Directory} {c : Command} {o : Outcome} (h : run? d c = .ok o) :
    run d c = o := by
  rw [run, h]

/-- A command that fails writes its report and nothing else. -/
theorem run_of_error {d : Directory} {c : Command} {f : Failure} (h : run? d c = .error f) :
    run d c = ⟨failureCode, [], f.report, d⟩ := by
  rw [run, h]

/-- A sheet is loaded exactly when the delimiter is ASCII and the file can be
    read with it. -/
theorem loadSheet_eq_ok_iff {d : Directory} {path : String} {delimiter : Char} {s : Sheet} :
    loadSheet d path delimiter = .ok s ↔ delimiter.toNat < 128 ∧
      Sheet.load d path ⟨.delimitedBy (UInt8.ofNat delimiter.toNat), false⟩ = .ok s := by
  unfold loadSheet delimiterByte
  by_cases hascii : delimiter.toNat < 128
  · rw [if_pos hascii]
    exact Attempt.mapError_eq_ok_iff.trans ⟨fun h => ⟨hascii, h⟩, fun h => h.2⟩
  · rw [if_neg hascii]
    exact ⟨fun h => absurd h (by rintro ⟨⟩), fun h => absurd h.1 hascii⟩

/-- Rendering a sheet that was loaded and holds something gets as far as its
    target. -/
theorem runRender_of_load {d : Directory} {input : String} {delimiter : Char} {s : Sheet}
    (h : loadSheet d input delimiter = .ok s) (hs : s.isEmpty = false) (output : Option String)
    (raw : Bool) :
    runRender d input output raw delimiter =
      match output with
      | some path => ((d.create path (exported s raw delimiter)).mapError
          (Failure.ofCreating path)).map fun after =>
            ⟨0, [], writtenLine s.displayUsed.rowCount path ++
              countsLine s.formulaCells.ncard s.faultCells.ncard, after⟩
      | none => .ok ⟨0, exported s raw delimiter,
          countsLine s.formulaCells.ncard s.faultCells.ncard, d⟩ := by
  rcases loadSheet_eq_ok_iff.mp h with ⟨hascii, hload⟩
  have hvalid := Sheet.Valid.of_load hload
  rcases (counts_of_valid hvalid).1 with ⟨hformulas, hfaults⟩
  have hbyte : delimiterByte delimiter = .ok (UInt8.ofNat delimiter.toNat) := by
    rw [delimiterByte, if_pos hascii]
  rw [runRender, h]
  simp only [bind, Except.bind, rows_displayUsed_isEmpty hvalid, hs, Bool.false_eq_true, if_false,
    hbyte, renderedBytes_eq_exported, hformulas, hfaults]
  cases output with
  | some path => rfl
  | none => rfl

/-- A description of a valid sheet ends with its counts. -/
theorem exists_infoLines (path : String) {s : Sheet} (hs : s.Valid) :
    ∃ lines, infoLines path s = lines ++ countLines s.formulaCells.ncard s.faultCells.ncard := by
  rcases (counts_of_valid hs).2 with ⟨hformulas, hfaults⟩
  refine ⟨(infoLines path s).take 5, ?_⟩
  rw [← hformulas, ← hfaults]
  rfl

/-- A file with a sheet that holds something is rendered as what an export of
    the sheet writes, to the output or into a file that is read with the same
    bytes. The counts that are reported are those of the formulas and faults in
    the sheet, and a description of the sheet, whose lines are what is printed,
    ends with them. -/
theorem run_render_eq_export {d : Directory} {input : String} {delimiter : Char} {s : Sheet}
    (h : loadSheet d input delimiter = .ok s) (hs : s.isEmpty = false) (raw : Bool) :
    run d (.render input none raw delimiter) =
      ⟨0, exported s raw delimiter, countsLine s.formulaCells.ncard s.faultCells.ncard, d⟩ ∧
    (∀ path after, d.create path (exported s raw delimiter) = .ok after →
      after.read path = .ok (exported s raw delimiter) ∧
      run d (.render input (some path) raw delimiter) =
        ⟨0, [], writtenLine s.displayUsed.rowCount path ++
          countsLine s.formulaCells.ncard s.faultCells.ncard, after⟩) ∧
    (∀ path e, d.create path (exported s raw delimiter) = .error e →
      run d (.render input (some path) raw delimiter) =
        ⟨failureCode, [], (Failure.ofCreating path e).report, d⟩) ∧
    ∀ path, ∃ lines,
      infoLines path s = lines ++ countLines s.formulaCells.ncard s.faultCells.ncard ∧
      ∀ d', loadSheet d' path ',' = .ok s →
        run d' (.info path) =
          ⟨0, Csv.textBytes (String.join ((infoLines path s).map (· ++ "\n"))), "", d'⟩ ∧
        Utf8.decode? (run d' (.info path)).output =
          some (String.join ((infoLines path s).map (· ++ "\n"))).toList := by
  have hrender := runRender_of_load h hs
  have hvalid := Sheet.Valid.of_load (loadSheet_eq_ok_iff.mp h).2
  refine ⟨?_, fun path after hcreate => ?_, fun path e hcreate => ?_, fun path => ?_⟩
  · rw [run, run?, hrender]
  · refine ⟨(Directory.read_of_create hcreate).1, ?_⟩
    simp only [run, run?, hrender, hcreate]
    rfl
  · simp only [run, run?, hrender, hcreate]
    rfl
  · rcases exists_infoLines path hvalid with ⟨lines, hlines⟩
    refine ⟨lines, hlines, fun d' hload => ?_⟩
    have hrun : run d' (.info path) =
        ⟨0, Csv.textBytes (String.join ((infoLines path s).map (· ++ "\n"))), "", d'⟩ := by
      rw [run, run?, runInfo, hload]
      rfl
    rw [hrun]
    exact ⟨rfl, Csv.decode?_textBytes _⟩

/-- A formula that shows a fault and one that reads its text, in a file with
    semicolons, to the output and into another file. -/
theorem run_render_eq_export_semicolons :
    let d := Directory.flat [("in.csv", Csv.textBytes "=1/0;a,b\n;=A1\n")]
    let bytes := Csv.textBytes "#DIV/0;a,b\n;#ERR\n"
    run d (.render "in.csv" none false ';') =
      ⟨0, bytes, "Evaluated 2 formulas (2 errors)\n", d⟩ ∧
    run d (.render "in.csv" (some "out.csv") false ';') =
      ⟨0, [], "Wrote 2 rows to 'out.csv'\nEvaluated 2 formulas (2 errors)\n",
        { d with files := d.files.insert "out.csv" bytes }⟩ := by
  intro d bytes
  let cells : List (Address × String) := [(⟨0, 0⟩, "=1/0"), (⟨0, 1⟩, "a,b"), (⟨1, 1⟩, "=A1")]
  let s : Sheet := ⟨"in", 30, 12, .ofList cells⟩
  have hload : loadSheet d "in.csv" ';' = .ok s :=
    Attempt.toOption_eq_some_iff.mp (by decide +kernel)
  have hvalid := Sheet.Valid.of_load (loadSheet_eq_ok_iff.mp hload).2
  have hbytes : exported s false ';' = bytes := by decide +kernel
  have hcounts : s.displayUsed.formulas = 2 ∧ s.displayUsed.faults = 2 := by decide +kernel
  have hformulas : s.formulaCells.ncard = 2 := (counts_of_valid hvalid).1.1.symm.trans hcounts.1
  have hfaults : s.faultCells.ncard = 2 := (counts_of_valid hvalid).1.2.symm.trans hcounts.2
  have hrows : s.displayUsed.rowCount = 2 := by decide +kernel
  have hcreate : d.create "out.csv" bytes =
      .ok { d with files := d.files.insert "out.csv" bytes } := rfl
  have hrender := run_render_eq_export hload (by decide) false
  rw [hbytes, hformulas, hfaults, hrows] at hrender
  exact ⟨hrender.1, (hrender.2.1 "out.csv" _ hcreate).2⟩

end Command

end Worksheet
