import Std.Data.ExtTreeMap
import Worksheet.File.Path

/-!
# Directories

The files a program can see: their contents by path, and the folders in which
new ones can be created.

Reading fails when there is no such file, and creating fails when there is no
such folder. Creating a file that exists replaces its content. Paths that are
spelled differently and are alike name the same file, but a path with a slash
at its end, or with a dot behind one, asks for a folder and never names a file.

## Main definitions

* `Directory`: Files by path, and folders.
* `Directory.flat`: Files in one folder that has no others in it.
* `File.Error`: Why a file cannot be read or created.
* `Directory.content?`: The content of a file.
* `Directory.read`, `Directory.create`: Reading and creating files.
-/

namespace Worksheet

/-- The files a program can see. -/
structure Directory where
  /-- The contents of the files, by the shortest spelling of their paths. -/
  files : Std.ExtTreeMap String (List UInt8)
  /-- The folders that exist. -/
  folders : List Path

/-- Why a file cannot be read or created. -/
inductive File.Error where
  /-- The file, or the folder it should be in, does not exist. -/
  | notFound
  /-- A file stands where the path needs a folder. -/
  | notFolder
  /-- The path leads to a folder. -/
  | isFolder
  /-- The path holds the character that no name can hold. -/
  | nulInName
  deriving DecidableEq, Repr

/-- What is shown for a file that cannot be read or created. -/
def File.Error.message : File.Error → String
  | .notFound => "No such file or directory (os error 2)"
  | .notFolder => "Not a directory (os error 20)"
  | .isFolder => "Is a directory (os error 21)"
  | .nulInName => "file name contained an unexpected NUL byte"

namespace Directory

/-- Files in the current folder, with no other folder around. -/
def flat (files : List (String × List UInt8)) : Directory :=
  ⟨.ofList (files.map fun f => ((Path.ofString f.1).toString, f.2)), [⟨false, []⟩]⟩

/-- The content of a file; none when there is no such file. -/
def content? (d : Directory) (path : String) : Option (List UInt8) :=
  d.files[(Path.ofString path).toString]?

/-- What is wrong with a path that leads nowhere: it goes on behind a file, or
    it just is not there. -/
def missing (d : Directory) (p : Path) : File.Error :=
  let passes (k : Nat) : Bool := d.files.contains { p with names := p.names.take k }.toString
  if (List.range p.names.length).any passes then .notFolder else .notFound

/-- What keeps a path from naming a file, whatever files there are. -/
def rejection? (d : Directory) (path : String) : Option File.Error :=
  if '\x00' ∈ path.toList then some .nulInName
  else if path.isEmpty then some .notFound
  else if Path.ofString path ∈ d.folders then some .isFolder
  else none

/-- The content of a file. -/
def read (d : Directory) (path : String) : Except File.Error (List UInt8) :=
  match d.rejection? path, d.content? path with
  | some e, _ => .error e
  | none, some bytes => if Path.asksForFolder path then .error .notFolder else .ok bytes
  | none, none => .error (d.missing (Path.ofString path))

/-- The directory with a file created or replaced. -/
def create (d : Directory) (path : String) (bytes : List UInt8) :
    Except File.Error Directory :=
  let p := Path.ofString path
  match d.rejection? path with
  | some e => .error e
  | none =>
    if p.folder ∈ d.folders ∧ p.fileName?.isSome then
      -- The last name would have to be a folder to go on from, and it is none.
      if Path.endsInDot path then
        .error (if (d.content? path).isSome then .notFolder else .notFound)
      else if Path.endsInSlash path then .error .isFolder
      else .ok { d with files := d.files.insert p.toString bytes }
    else
      .error (d.missing p)

end Directory

end Worksheet
