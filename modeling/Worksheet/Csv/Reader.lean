import Worksheet.Csv.Record
import Worksheet.Sheet.Basic
import Worksheet.Text.Utf8

/-!
# Reading Sheets

From the bytes of delimited text to a sheet.

Each field becomes the text of the cell at the place of its record and its
own place in it. Empty fields leave their cells empty wherever they are. A
record is turned into text as a whole before any of its fields is stored, so
a field that is no text is reported before one that lies beyond the limits,
while records are dealt with one after the other. Where white space is taken
off, that is done with the bytes of every record, the first one included, before
they are looked at as text.

## Main definitions

* `Csv.Error`: Why bytes are not the content of a sheet.
* `Csv.fieldText`: The text of a field.
* `Csv.recordTexts`: The texts of a record.
* `Csv.storeRecord`: A sheet with the texts of a record in a row.
* `Csv.read`: The sheet that some bytes hold.
-/

namespace Worksheet

namespace Csv

/-- Why bytes are not the content of a sheet. -/
inductive Error where
  /-- A field is not text from some byte on. -/
  | notText (record : Nat) (start : Position) (field : Nat) (validLength : Nat)
  /-- A field that holds something lies beyond the limits. -/
  | outOfBounds (cause : OutOfBounds)
  deriving DecidableEq, Repr

namespace Error

/-- What is wrong, without saying where the error comes from. -/
def detail : Error → String
  | .notText record start field validLength =>
    s!"CSV parse error: record {record} (line {start.line}, field: {field}, byte: {start.byte}): " ++
      s!"invalid utf-8: invalid UTF-8 in field {field} near byte index {validLength}"
  | .outOfBounds cause => cause.message

/-- What is shown for an error. -/
def message (e : Error) : String :=
  match e with
  | .notText .. => s!"CSV error: {e.detail}"
  | .outOfBounds _ => s!"Core error: {e.detail}"

end Error

/-- The bytes that are white space in every encoding that extends ASCII. -/
def isWhiteByte (b : UInt8) : Bool :=
  b == 9 || b == 10 || b == 12 || b == 13 || b == 32

/-- A field without the white space bytes at its ends. -/
def trimBytes (bytes : List UInt8) : List UInt8 :=
  ((bytes.dropWhile isWhiteByte).reverse.dropWhile isWhiteByte).reverse

/-- The bytes of a field that are to be text. -/
def fieldBytes (trim : Bool) (bytes : List UInt8) : List UInt8 :=
  if trim then trimBytes bytes else bytes

/-- The text of a field, or the length of the part of it that is text. -/
def fieldText (trim : Bool) (bytes : List UInt8) : Except Nat String :=
  let kept := fieldBytes trim bytes
  match Utf8.decode? kept with
  | some cs => .ok (String.ofList (if trim then Text.trim Text.isWhite cs else cs))
  | none => .error (Utf8.validLength kept)

/-- The texts of a record, the first field that is no text deciding. -/
def recordTexts (trim : Bool) (record : Nat) (r : Record) : Except Error (List String) :=
  r.fields.zipIdx.mapM fun field =>
    (fieldText trim field.1).mapError fun validLength =>
      .notText record r.start field.2 validLength

/-- The sheet with a text in a cell, unless the text is empty. -/
def storeField (row : UInt32) (s : Sheet) (field : String × Nat) : Except Error Sheet :=
  if field.1.isEmpty then .ok s
  else (s.write ⟨row, UInt32.ofNat field.2⟩ field.1).mapError .outOfBounds

/-- The sheet with some texts side by side in a row. -/
def storeRecord (row : UInt32) (s : Sheet) (texts : List String) : Except Error Sheet :=
  texts.zipIdx.foldlM (storeField row) s

/-- The sheet with the texts of a record in the row of its place. -/
def addRecord (trim : Bool) (s : Sheet) (record : Record × Nat) : Except Error Sheet := do
  let texts ← recordTexts trim record.2 record.1
  storeRecord (UInt32.ofNat record.2) s texts

/-- The sheet that some bytes hold. -/
def read (options : ReadOptions) (bytes : List UInt8) : Except Error Sheet :=
  (records options.dialect bytes).zipIdx.foldlM (addRecord options.trim)
    (Sheet.fresh Sheet.defaultName)

end Csv

end Worksheet
