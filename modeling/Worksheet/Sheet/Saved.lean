import Worksheet.Json.Description
import Worksheet.Sheet.Basic

/-!
# Saved Sheets

The form in which sheets are handed on as data: a name, a size and the texts
of cells by their A1 addresses.

Every sheet has a saved form. The other way there is more freedom, since keys
may name one cell in several ways, leave texts empty or go beyond the size.
The texts are written one after the other in the order of the keys into an
empty sheet of the size, so the last key that names a cell decides, and the
sheet grows where it has to.

A saved form is in turn written as a JSON object, or read from one or from an
array of its parts. The parts are judged in the order of their keys, and what
is missing is reported after what is wrong.

## Main definitions

* `Saved`: The saved form of a sheet.
* `Sheet.saved`: The saved form of a sheet.
* `Saved.sheet`: The sheet that a saved form describes.
* `Saved.Error`: Why a JSON value is no saved sheet.
* `Saved.toJson`, `Saved.ofJson`: The saved form as a JSON value.
* `Sheet.ofJson`: The sheet that a JSON value describes.
-/

namespace Worksheet

/-- The saved form of a sheet. -/
structure Saved where
  /-- The name of the sheet. -/
  name : String
  /-- The number of displayed rows. -/
  rows : UInt32
  /-- The number of displayed columns. -/
  cols : UInt32
  /-- The texts of cells by address. -/
  cells : Std.ExtTreeMap String String
  deriving DecidableEq

/-- The saved form of a sheet. -/
def Sheet.saved (s : Sheet) : Saved where
  name := s.name
  rows := s.rows
  cols := s.cols
  cells := .ofList (s.entries.map fun e => (e.1.a1, e.2))

namespace Saved

/-- The sheet that a saved form describes. -/
def sheet (saved : Saved) : Except Address.Error Sheet :=
  saved.cells.toList.foldlM (fun s e => s.writeA1 e.1 e.2)
    (Sheet.empty saved.name saved.rows saved.cols)

/-- Why a JSON value is no saved sheet. -/
inductive Error where
  /-- A value is not of the expected kind. -/
  | unexpected (found : Json) (expected : String)
  /-- A whole number is no count of 32 bits. -/
  | outOfRange (n : Int)
  /-- A part is missing. -/
  | missing (key : String)
  /-- An array of parts ends too early. -/
  | tooShort (length : Nat)
  /-- An array of parts goes on too long. -/
  | tooLong (length : Nat)
  /-- A key of a cell is no address. -/
  | address (cause : Address.Error)

/-- What is shown for a value that is no saved sheet. -/
def Error.message : Error → String
  | .unexpected found expected => s!"invalid type: {found.description}, expected {expected}"
  | .outOfRange n => s!"invalid value: integer `{n}`, expected u32"
  | .missing key => s!"missing field `{key}`"
  | .tooShort length => s!"invalid length {length}, expected struct SheetRepr with 4 elements"
  | .tooLong length => s!"invalid length {length}, expected fewer elements in array"
  | .address cause => cause.message

/-- A text from a JSON value. -/
def text : Json → Except Error String
  | .text t => .ok t
  | found => .error (.unexpected found "a string")

/-- A count from a JSON value. -/
def count : Json → Except Error UInt32
  | .integer n =>
    if 0 ≤ n ∧ n < UInt32.size then .ok (UInt32.ofNat n.toNat) else .error (.outOfRange n)
  | found => .error (.unexpected found "u32")

/-- Texts by key from a JSON value. -/
def texts : Json → Except Error (Std.ExtTreeMap String String)
  | .object members => do
    let entries ← members.mapM fun m => (text m.2).map fun t => (m.1, t)
    return .ofList entries
  | found => .error (.unexpected found "a map")

/-- A part that must be there. -/
def required {α : Type} (key : String) : Option α → Except Error α
  | some a => .ok a
  | none => .error (.missing key)

/-- The saved sheet with its parts as the members of an object. -/
def ofMembers (members : List (String × Json)) : Except Error Saved := do
  let cells ← (Json.member? members "cells").mapM texts
  let cols ← (Json.member? members "cols").mapM count
  let name ← (Json.member? members "name").mapM text
  let rows ← (Json.member? members "rows").mapM count
  let name ← required "name" name
  let rows ← required "rows" rows
  let cols ← required "cols" cols
  return ⟨name, rows, cols, cells.getD ∅⟩

/-- A part of an array of parts. -/
def element {α : Type} (elements : List Json) (read : Json → Except Error α) (i : Nat) :
    Except Error α :=
  match elements[i]? with
  | some e => read e
  | none => .error (.tooShort i)

/-- The saved sheet with its parts as the elements of an array. -/
def ofElements (elements : List Json) : Except Error Saved := do
  let name ← element elements text 0
  let rows ← element elements count 1
  let cols ← element elements count 2
  let cells ← elements[3]?.mapM texts
  if 4 < elements.length then
    .error (.tooLong elements.length)
  else
    return ⟨name, rows, cols, cells.getD ∅⟩

/-- The saved sheet that a JSON value is. -/
def ofJson : Json → Except Error Saved
  | .object members => ofMembers members
  | .array elements => ofElements elements
  | found => .error (.unexpected found "struct SheetRepr")

/-- A saved sheet as a JSON value. -/
def toJson (saved : Saved) : Json :=
  .object [
    ("cells", .object (saved.cells.toList.map fun e => (e.1, .text e.2))),
    ("cols", .integer saved.cols.toNat),
    ("name", .text saved.name),
    ("rows", .integer saved.rows.toNat)]

end Saved

/-- The sheet that a JSON value describes. -/
def Sheet.ofJson (json : Json) : Except Saved.Error Sheet := do
  let saved ← Saved.ofJson json
  saved.sheet.mapError .address

end Worksheet
