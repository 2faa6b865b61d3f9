/-!
# Dialects of Delimited Text

How records of fields are laid out in a file, and how they are to be read and
written.

Fields stand side by side with a delimiter between them and records end in a
line end. A field that would be misunderstood is put in quotes, and a quote
inside quotes is doubled. Delimiter and quote are single bytes.

## Main definitions

* `Csv.Dialect`: The bytes that separate and quote fields.
* `Csv.LineEnd`: How records end when they are written.
* `Csv.Content`: Which text of a cell is written.
* `Csv.ReadOptions`, `Csv.WriteOptions`: How to read and write.
-/

namespace Worksheet

namespace Csv

/-- The line feed. -/
def lineFeed : UInt8 := 10

/-- The carriage return. -/
def carriageReturn : UInt8 := 13

/-- The byte ends a line: either the line feed or the carriage return. -/
def isLineEnd (b : UInt8) : Bool :=
  b == lineFeed || b == carriageReturn

/-- The bytes that separate and quote fields. -/
structure Dialect where
  /-- The byte between two fields. -/
  delimiter : UInt8
  /-- The byte around a field that needs it. -/
  quote : UInt8
  deriving DecidableEq, Repr

/-- The double quote. -/
def doubleQuote : UInt8 := 34

/-- The dialect with a delimiter and the double quote. -/
def Dialect.delimitedBy (delimiter : UInt8) : Dialect :=
  ⟨delimiter, doubleQuote⟩

/-- The delimiter of comma separated text. -/
def comma : UInt8 := 44

/-- The delimiter of tab separated text. -/
def tab : UInt8 := 9

/-- How records end when they are written. -/
inductive LineEnd where
  /-- With a line feed. -/
  | lf
  /-- With a carriage return and a line feed. -/
  | crlf
  /-- With a carriage return. -/
  | cr
  deriving DecidableEq, Repr

/-- The bytes of a line end. -/
def LineEnd.bytes : LineEnd → List UInt8
  | lf => [lineFeed]
  | crlf => [carriageReturn, lineFeed]
  | cr => [carriageReturn]

/-- Which text of a cell is written. -/
inductive Content where
  /-- The text as it was entered. -/
  | raw
  /-- The text the cell shows. -/
  | shown
  deriving DecidableEq, Repr

/-- How to read. -/
structure ReadOptions where
  /-- The layout of the file. -/
  dialect : Dialect
  /-- Fields lose the white space at their ends. -/
  trim : Bool
  deriving DecidableEq, Repr

/-- How to write. -/
structure WriteOptions where
  /-- The layout of the file. -/
  dialect : Dialect
  /-- How records end. -/
  lineEnd : LineEnd
  /-- Which text of a cell is written. -/
  content : Content
  deriving DecidableEq, Repr

end Csv

end Worksheet
