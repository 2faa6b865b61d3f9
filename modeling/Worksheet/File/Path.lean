/-!
# File Paths

Which file a path names, where it is and what it is called.

A path names folders and at last a file, with slashes between them. Slashes
too many and dots that stand for the folder one is in add nothing, so two
paths are alike when their remaining names are. A path that begins with a
slash begins at the root. The name of the file is cut at its last dot into a
stem and an extension; a dot at the very front is part of the name.

Files are told apart by the names of their paths alone. Two dots are a name
like any other here, and no name is a link to somewhere else.

## Main definitions

* `Path`: The names a path consists of.
* `Path.ofString`: The path a text spells.
* `Path.endsInSlash`, `Path.endsInDot`: What there is behind the last name.
* `Path.asksForFolder`: Whether the text can only spell a folder.
* `Path.toString`: The shortest spelling of a path.
* `Path.folder`: The folder a path leads to.
* `Path.fileName?`: The name of the file.
* `Path.stem?`, `Path.extension?`: The two parts of that name.
-/

namespace Worksheet

/-- The names a path consists of. -/
structure Path where
  /-- The path begins at the root. -/
  absolute : Bool
  /-- The names of folders, and at last of the file. -/
  names : List String
  deriving DecidableEq, Repr

namespace Path

/-- The stretches of a text between the occurrences of a separator. -/
def stretches (separator : Char) : List Char → List (List Char)
  | [] => [[]]
  | c :: cs =>
    if c = separator then
      [] :: stretches separator cs
    else
      match stretches separator cs with
      | [] => [[c]]
      | first :: others => (c :: first) :: others

/-- The path a text spells. -/
def ofString (text : String) : Path where
  absolute := text.toList.head? == some '/'
  names := ((stretches '/' text.toList).filter fun cs => cs ≠ [] ∧ cs ≠ ['.']).map String.ofList

/-- The text has a slash at its end. -/
def endsInSlash (text : String) : Bool :=
  text.toList.getLast? == some '/'

/-- The text has a dot at its end that stands for a folder. -/
def endsInDot (text : String) : Bool :=
  ((stretches '/' text.toList).filter fun cs => cs ≠ []).getLast? == some ['.']

/-- There is something behind the last name, so that only a folder will do. -/
def asksForFolder (text : String) : Bool :=
  endsInSlash text || endsInDot text

/-- The shortest spelling of a path. -/
def toString (p : Path) : String :=
  if p.absolute then "/" ++ "/".intercalate p.names
  else if p.names.isEmpty then "."
  else "/".intercalate p.names

/-- The folder a path leads to, without the last name. -/
def folder (p : Path) : Path :=
  { p with names := p.names.dropLast }

/-- The name of the file; none when the path ends in no name. -/
def fileName? (p : Path) : Option String :=
  match p.names.getLast? with
  | some name => if name = ".." then none else some name
  | none => none

/-- The text in front of the last dot, and the text behind it; none when there
    is no dot. -/
def cutLastDot? (cs : List Char) : Option (List Char × List Char) :=
  if '.' ∈ cs then
    let reversed := cs.reverse
    some ((reversed.dropWhile (· != '.')).tail.reverse, (reversed.takeWhile (· != '.')).reverse)
  else
    none

/-- The stem and the extension of a file name. -/
def splitName (name : String) : String × Option String :=
  match cutLastDot? name.toList with
  | some (front, back) =>
    if front.isEmpty then (name, none) else (String.ofList front, some (String.ofList back))
  | none => (name, none)

/-- The name of the file without its extension. -/
def stem? (p : Path) : Option String :=
  p.fileName?.map fun name => (splitName name).1

/-- The extension of the name of the file. -/
def extension? (p : Path) : Option String :=
  p.fileName?.bind fun name => (splitName name).2

end Path

end Worksheet
