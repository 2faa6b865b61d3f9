import Worksheet.Command.Arguments
import Worksheet.Sheet.File

/-!
# Running Commands

What a command prints and which files it leaves behind.

A command sees a directory and gives an outcome: an exit code, what it writes
to its two outputs, and the directory afterwards. A command that fails writes
a report to its second output and changes no file; the only file that a
command ever creates is the target of a rendering, and it is created when all
else has succeeded. Arguments that ask for nothing have a code of their own.

## Main definitions

* `Outcome`: What a run leaves behind.
* `Failure`: A message and the chain of its causes.
* `Failure.report`: What is written about a failure.
* `Command.delimiterByte`: The byte of a delimiter.
* `Command.loadSheet`: The sheet in a file.
* `Command.splitAssignment`: The cell and the text of an assignment.
* `Command.assign`: A sheet with an assignment carried out.
* `Command.evalLine`, `Command.infoLines`: What the commands print.
* `Command.renderedBytes`: What a rendering writes.
* `Command.run`: The outcome of a command.
* `Command.runArguments`: The outcome of some arguments.
-/

namespace Worksheet

/-- What a run leaves behind. -/
structure Outcome where
  /-- The exit code. -/
  code : UInt32
  /-- The bytes written to the first output. -/
  output : List UInt8
  /-- The text written to the second output. -/
  messages : String
  /-- The files afterwards. -/
  directory : Directory

/-- A message and the chain of its causes, the nearest one first. -/
structure Failure where
  /-- What has failed. -/
  message : String
  /-- Why, and why that. -/
  causes : List String
  deriving DecidableEq, Repr

namespace Failure

/-- The lines of a cause behind a mark, the later ones set in as far as the mark
    reaches. -/
def entry (mark cause : String) : String :=
  let margin := List.replicate mark.length ' '
  mark ++
    String.ofList (cause.toList.flatMap fun c => if c = '\n' then '\n' :: margin else [c]) ++ "\n"

/-- The part of a report that gives the causes. Several causes are numbered. -/
def causesText : List String → String
  | [] => ""
  | [cause] => "\nCaused by:\n" ++ entry "    " cause
  | causes =>
    "\nCaused by:\n" ++ String.join (causes.zipIdx.map fun c => entry s!"    {c.2}: " c.1)

/-- The report of a failure. -/
def report (f : Failure) : String :=
  s!"Error: {f.message}\n" ++ causesText f.causes

/-- A failure without a cause. -/
def ofMessage (message : String) : Failure :=
  ⟨message, []⟩

/-- A file could not be loaded. -/
def ofLoading (path : String) (cause : Sheet.FileError) : Failure :=
  ⟨s!"Failed to open '{path}'", [cause.message, cause.detail]⟩

/-- A cell could not be set. -/
def ofSetting (cell : String) (cause : Address.Error) : Failure :=
  ⟨s!"Failed to set '{cell}'", [cause.message]⟩

/-- A file could not be created. -/
def ofCreating (path : String) (cause : File.Error) : Failure :=
  ⟨s!"Failed to create '{path}'", [cause.message]⟩

end Failure

namespace Command

/-- The byte of a delimiter, which must be one in UTF-8. -/
def delimiterByte (delimiter : Char) : Except Failure UInt8 :=
  if delimiter.toNat < 128 then
    .ok (UInt8.ofNat delimiter.toNat)
  else
    .error (.ofMessage s!"Delimiter must be a single ASCII character, got '{delimiter}'")

/-- The sheet in a file with a delimiter. -/
def loadSheet (d : Directory) (path : String) (delimiter : Char) : Except Failure Sheet := do
  let byte ← delimiterByte delimiter
  (Sheet.load d path ⟨.delimitedBy byte, false⟩).mapError (.ofLoading path)

/-- The cell and the text of an assignment, which stand on the two sides of
    its first equals sign. -/
def splitAssignment (assignment : String) : Except Failure (String × String) :=
  let cs := assignment.toList
  match cs.dropWhile (· != '=') with
  | [] => .error (.ofMessage s!"Expected CELL=TEXT, got '{assignment}'")
  | _ :: text =>
    let cell := Text.trim Text.isWhite (cs.takeWhile (· != '='))
    if cell.isEmpty then
      .error (.ofMessage s!"Missing cell in '{assignment}'")
    else
      .ok (String.ofList cell, String.ofList text)

/-- The sheet with an assignment carried out. -/
def assign (s : Sheet) (assignment : String) : Except Failure Sheet := do
  let (cell, text) ← splitAssignment assignment
  (s.writeA1 cell text).mapError (.ofSetting cell)

/-- The sheet that a formula is evaluated next to. -/
def evalSheet (d : Directory) (sheet : Option String) (assignments : List String)
    (delimiter : Char) : Except Failure Sheet := do
  let s ←
    match sheet with
    | some path => loadSheet d path delimiter
    | none => .ok (Sheet.fresh Sheet.defaultName)
  assignments.foldlM assign s

/-- What evaluating prints. -/
def evalLine (formula : String) (s : Sheet) : String :=
  s.grid.shown formula ++ "\n"

/-- What rendering a sheet writes. -/
def renderedBytes (s : Sheet) (shown : Display) (raw : Bool) (delimiter : UInt8) : List UInt8 :=
  if raw then
    Csv.write ⟨.delimitedBy delimiter, .lf, .raw⟩ s
  else
    Csv.writeRows (.delimitedBy delimiter) .lf shown.rows

/-- What describing a sheet prints. -/
def infoLines (path : String) (s : Sheet) : List String :=
  let shown := s.display
  let used :=
    match s.usedRange? with
    | some r =>
      let whole := Range.ofCorners ⟨0, 0⟩ r.last
      s!"{whole.a1} ({r.last.row + 1} rows x {r.last.col + 1} columns)"
    | none => "empty"
  [s!"File: {path}",
   s!"Sheet: \"{s.name}\"",
   s!"  Size: {s.rows} rows x {s.cols} columns",
   s!"  Used range: {used}",
   s!"  Non-empty cells: {s.cellCount}",
   s!"  Formulas: {shown.formulas}",
   s!"  Errors: {shown.faults}"]

/-- The outcome of evaluating. -/
def runEval (d : Directory) (formula : String) (sheet : Option String)
    (assignments : List String) (delimiter : Char) : Except Failure Outcome := do
  let s ← evalSheet d sheet assignments delimiter
  return ⟨0, Csv.textBytes (evalLine formula s), "", d⟩

/-- The outcome of rendering. -/
def runRender (d : Directory) (input : String) (output : Option String) (raw : Bool)
    (delimiter : Char) : Except Failure Outcome := do
  let s ← loadSheet d input delimiter
  let shown := s.displayUsed
  if shown.rows.isEmpty then
    return ⟨0, [], "Warning: Sheet appears to be empty\n", d⟩
  let byte ← delimiterByte delimiter
  let bytes := renderedBytes s shown raw byte
  let counts := s!"Evaluated {shown.formulas} formulas ({shown.faults} errors)\n"
  match output with
  | some path =>
    let after ← (d.create path bytes).mapError (.ofCreating path)
    return ⟨0, [], s!"Wrote {shown.rowCount} rows to '{path}'\n" ++ counts, after⟩
  | none => return ⟨0, bytes, counts, d⟩

/-- The outcome of describing. -/
def runInfo (d : Directory) (input : String) : Except Failure Outcome := do
  let s ← loadSheet d input ','
  return ⟨0, Csv.textBytes (String.join ((infoLines input s).map (· ++ "\n"))), "", d⟩

/-- The outcome of a command, unless it fails. -/
def run? (d : Directory) : Command → Except Failure Outcome
  | .eval formula sheet assignments delimiter => runEval d formula sheet assignments delimiter
  | .render input output raw delimiter => runRender d input output raw delimiter
  | .info input => runInfo d input

/-- The exit code of a command that fails. -/
def failureCode : UInt32 := 1

/-- The exit code of arguments that ask for nothing. -/
def usageCode : UInt32 := 2

/-- The outcome of a command. -/
def run (d : Directory) (c : Command) : Outcome :=
  match run? d c with
  | .ok outcome => outcome
  | .error failure => ⟨failureCode, [], failure.report, d⟩

/-- How arguments are to be given. -/
def usage : String :=
  "Usage: eval <FORMULA> [--sheet <FILE>] [--set <CELL=TEXT>]... [--delimiter <CHAR>]\n" ++
  "       render <INPUT> [--output <FILE>] [--raw] [--delimiter <CHAR>]\n" ++
  "       info <INPUT>\n"

/-- The outcome of some arguments. -/
def runArguments (d : Directory) (arguments : List String) : Outcome :=
  match ofArguments? arguments with
  | some c => run d c
  | none => ⟨usageCode, [], usage, d⟩

end Command

end Worksheet
