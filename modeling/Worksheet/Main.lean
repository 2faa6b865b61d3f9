import Worksheet.Command.Run

/-!
# The Program

Runs a command on the files of the system.

The files that a command names are read before it runs and the file that it
creates is written afterwards; all decisions are made in between, by
`Command.runArguments`.

## Main definitions

* `Command.inputs`, `Command.target?`: The files that a command names.
* `Command.snapshot`: The files of the system that it can see.
* `main`: The program.
-/

namespace Worksheet

/-- The files that a command reads. -/
def Command.inputs : Command → List String
  | .eval _ sheet _ _ => sheet.toList
  | .render input _ _ _ => [input]
  | .info input => [input]

/-- The file that a command creates. -/
def Command.target? : Command → Option String
  | .render _ output _ _ => output
  | _ => none

/-- The files of the system that a command reads, and the folder of the file
    that it creates, if there is such a folder. -/
def Command.snapshot (c : Command) : IO Directory := do
  let mut files : List (String × List UInt8) := []
  for path in c.inputs do
    try
      let bytes ← IO.FS.readBinFile path
      files := ((Path.ofString path).toString, bytes.toList) :: files
    catch _ => pure ()
  let mut folders : List Path := []
  if let some path := c.target? then
    let folder := (Path.ofString path).folder
    try
      let _ ← IO.FS.realPath folder.toString
      folders := [folder]
    catch _ => pure ()
  return ⟨.ofList files, folders⟩

/-- Writes the file that a command has created. -/
def Command.writeTarget (c : Command) (before after : Directory) : IO Unit := do
  if let some path := c.target? then
    match after.content? path with
    | some bytes =>
      if before.content? path ≠ some bytes then
        IO.FS.writeBinFile path (ByteArray.mk bytes.toArray)
    | none => pure ()

end Worksheet

/-- Runs the command that the arguments ask for. -/
def main (arguments : List String) : IO UInt32 := do
  let command := Worksheet.Command.ofArguments? arguments
  let before ←
    match command with
    | some c => c.snapshot
    | none => pure ⟨∅, []⟩
  let outcome := Worksheet.Command.runArguments before arguments
  if let some c := command then
    c.writeTarget before outcome.directory
  (← IO.getStdout).write (ByteArray.mk outcome.output.toArray)
  (← IO.getStderr).putStr outcome.messages
  return outcome.code
