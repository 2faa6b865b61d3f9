import Worksheet.Csv.Reader
import Worksheet.Csv.Writer
import Worksheet.File.Directory

/-!
# Sheets in Files

Loading sheets from files and storing them in files.

A loaded sheet is called like its file without the extension. `load` and
`storeIn` are told the layout of the file; `openFile` and `saveFile` know it
from the extension, in letters of either case, and refuse extensions that they
do not know.

## Main definitions

* `Sheet.FileError`: Why a sheet cannot be loaded from a file or stored in one.
* `Sheet.load`, `Sheet.storeIn`: Loading and storing with given options.
* `Sheet.delimiterFor?`: The delimiter an extension stands for.
* `Sheet.FormatError`: Why a file cannot be opened or saved.
* `Sheet.openFile`, `Sheet.saveFile`: Loading and storing by extension.
-/

namespace Worksheet

namespace Sheet

/-- Why a sheet cannot be loaded from a file or stored in one. -/
inductive FileError where
  /-- The file cannot be opened or created. -/
  | file (cause : File.Error)
  /-- There is a folder in place of the file, which opens but has no bytes. -/
  | folder
  /-- The content of the file is not that of a sheet. -/
  | content (cause : Csv.Error)
  deriving DecidableEq, Repr

namespace FileError

/-- What is wrong, without saying where the error comes from. -/
def detail : FileError → String
  | .file cause => cause.message
  | .folder => File.Error.isFolder.message
  | .content cause => cause.detail

/-- What is shown for it. -/
def message : FileError → String
  | .file cause => s!"IO error: {cause.message}"
  | .folder => s!"CSV error: {File.Error.isFolder.message}"
  | .content cause => cause.message

/-- The error of a file that cannot be read. -/
def ofReading : File.Error → FileError
  | .isFolder => .folder
  | cause => .file cause

end FileError

/-- The sheet in a file. -/
def load (d : Directory) (path : String) (options : Csv.ReadOptions) : Except FileError Sheet := do
  let bytes ← (d.read path).mapError .ofReading
  let s ← (Csv.read options bytes).mapError .content
  match (Path.ofString path).stem? with
  | some name => return s.rename name
  | none => return s

/-- The directory with a sheet stored in a file. -/
def storeIn (s : Sheet) (d : Directory) (path : String) (options : Csv.WriteOptions) :
    Except FileError Directory :=
  (d.create path (Csv.write options s)).mapError .file

/-- The delimiter that the extension of a path stands for. -/
def delimiterFor? (path : String) : Option UInt8 :=
  match (Path.ofString path).extension?.map String.toLower with
  | some "csv" => some Csv.comma
  | some "txt" => some Csv.comma
  | some "tsv" => some Csv.tab
  | _ => none

/-- Why a file cannot be opened or saved. -/
inductive FormatError where
  /-- The extension of the path stands for no layout. -/
  | unsupported (path : String)
  /-- The file cannot be loaded or stored. -/
  | file (cause : FileError)
  deriving DecidableEq, Repr

/-- What is shown for a file that cannot be opened or saved. -/
def FormatError.message : FormatError → String
  | .unsupported path => s!"Unsupported file format: {path}"
  | .file cause => cause.message

/-- The sheet in a file whose layout is known from its extension. -/
def openFile (d : Directory) (path : String) : Except FormatError Sheet :=
  match delimiterFor? path with
  | some delimiter => (load d path ⟨.delimitedBy delimiter, false⟩).mapError .file
  | none => .error (.unsupported path)

/-- The directory with the raw texts of a sheet stored in a file whose layout
    is known from its extension. -/
def saveFile (s : Sheet) (d : Directory) (path : String) : Except FormatError Directory :=
  match delimiterFor? path with
  | some delimiter => (s.storeIn d path ⟨.delimitedBy delimiter, .crlf, .raw⟩).mapError .file
  | none => .error (.unsupported path)

end Sheet

end Worksheet
