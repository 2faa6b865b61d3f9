import Worksheet.Csv.Dialect
import Worksheet.Sheet.Display
import Worksheet.Text.Utf8

/-!
# Writing Sheets

From rows of texts, or from a sheet, to the bytes of delimited text.

A field is put in quotes when it holds the delimiter, the quote or a byte of a
line end. A record without any byte would read as no record at all, so it is
written as an empty field in quotes.

A sheet is written from its first cell to the end of its used range, and an
empty sheet as nothing.

## Main definitions

* `Csv.needsQuotes`: A field would be misunderstood without quotes.
* `Csv.writeField`, `Csv.writeRecord`, `Csv.writeRows`: The bytes of fields,
  records and rows.
* `Csv.contentAt`: The text of a cell that is written.
* `Csv.write`: The bytes of a sheet.
-/

namespace Worksheet

namespace Csv

/-- The field would be misunderstood without quotes. -/
def needsQuotes (d : Dialect) (bytes : List UInt8) : Bool :=
  bytes.any fun b => b == d.delimiter || b == d.quote || isLineEnd b

/-- The bytes of a field with every quote doubled. -/
def doubleQuotes (d : Dialect) (bytes : List UInt8) : List UInt8 :=
  bytes.flatMap fun b => if b == d.quote then [b, b] else [b]

/-- The bytes of a field as they are written. -/
def writeField (d : Dialect) (bytes : List UInt8) : List UInt8 :=
  if needsQuotes d bytes then d.quote :: doubleQuotes d bytes ++ [d.quote] else bytes

/-- The bytes of a record without its line end. -/
def writeFields (d : Dialect) (fields : List (List UInt8)) : List UInt8 :=
  [d.delimiter].intercalate (fields.map (writeField d))

/-- The bytes of a record. -/
def writeRecord (d : Dialect) (lineEnd : LineEnd) (fields : List (List UInt8)) : List UInt8 :=
  let line := writeFields d fields
  (if line.isEmpty then [d.quote, d.quote] else line) ++ lineEnd.bytes

/-- The bytes of a text. -/
def textBytes (text : String) : List UInt8 :=
  Utf8.encode text.toList

/-- The bytes of some rows of texts. -/
def writeRows (d : Dialect) (lineEnd : LineEnd) (rows : List (List String)) : List UInt8 :=
  rows.flatMap fun row => writeRecord d lineEnd (row.map textBytes)

/-- The text of a cell that is written. -/
def contentAt (content : Content) (s : Sheet) (a : Address) : String :=
  match content with
  | .raw => s.text a
  | .shown => s.grid.shown (s.text a)

/-- The texts of a sheet from its first cell to the end of its used range. -/
def contentRows (content : Content) (s : Sheet) : List (List String) :=
  (Sheet.rectangle s.usedSize.1 s.usedSize.2).map fun row => row.map (contentAt content s)

/-- The bytes of a sheet. -/
def write (options : WriteOptions) (s : Sheet) : List UInt8 :=
  writeRows options.dialect options.lineEnd (contentRows options.content s)

end Csv

end Worksheet
