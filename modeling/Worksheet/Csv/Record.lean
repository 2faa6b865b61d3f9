import Worksheet.Csv.Dialect

/-!
# Records

Cutting bytes into records of fields.

A scanner reads one byte at a time and remembers which part of a record it is
in. A quote opens a quoted part only as the first byte of a field; in there, a
doubled quote is a quote, and after a single one the field goes on without
quotes. Line ends between records are passed over, so no record comes from an
empty line, and the end of the bytes ends the last record wherever it is.

Each record remembers where it begins: behind the first byte of the line end
of the record before it, or at the very start. A byte order mark in front of
everything is no part of the first field but counts as bytes.

## Main definitions

* `Csv.Position`: A place in the bytes.
* `Csv.Record`: The fields of a record and where it begins.
* `Csv.Phase`: The part of a record a scanner is in.
* `Csv.Scanner`: A scanner under way.
* `Csv.Scanner.step`: What a scanner does with a byte.
* `Csv.records`: The records of some bytes.
-/

namespace Worksheet

namespace Csv

/-- A place between two bytes. -/
structure Position where
  /-- The number of bytes in front of it. -/
  byte : Nat
  /-- The number of the line it is in, counted from one by line feeds. -/
  line : Nat
  deriving DecidableEq, Repr

/-- The place in front of everything. -/
def Position.origin : Position :=
  ⟨0, 1⟩

/-- The place behind a byte. -/
def Position.past (p : Position) (b : UInt8) : Position :=
  ⟨p.byte + 1, if b == lineFeed then p.line + 1 else p.line⟩

/-- A record: the bytes of its fields, and where it begins. -/
structure Record where
  /-- The place behind the record before. -/
  start : Position
  /-- The fields, from left to right. -/
  fields : List (List UInt8)
  deriving DecidableEq, Repr

/-- The part of a record a scanner is in. -/
inductive Phase where
  /-- In front of a record. -/
  | recordStart
  /-- In front of a field that is not the first byte of its record. -/
  | fieldStart
  /-- In a field, outside quotes. -/
  | plain
  /-- In a field, inside quotes. -/
  | quoted
  /-- In a field, behind a quote that either closes or begins a doubled one. -/
  | quoteSeen
  deriving DecidableEq, Repr

/-- A scanner under way. What has been read is kept latest first. -/
structure Scanner where
  /-- The part of a record it is in. -/
  phase : Phase
  /-- The bytes of the field it is in. -/
  field : List UInt8
  /-- The finished fields of the record it is in. -/
  fields : List (List UInt8)
  /-- The finished records. -/
  records : List Record
  /-- Where the record it is in begins. -/
  start : Position
  /-- The place it has reached. -/
  here : Position

namespace Scanner

/-- The scanner in front of bytes that begin at a place. -/
def init (here : Position) : Scanner :=
  ⟨.recordStart, [], [], [], .origin, here⟩

/-- One more byte belongs to the field. -/
def keep (s : Scanner) (phase : Phase) (b : UInt8) : Scanner :=
  { s with phase := phase, field := b :: s.field }

/-- The field is finished and another one follows. -/
def endField (s : Scanner) : Scanner :=
  { s with phase := .fieldStart, field := [], fields := s.field.reverse :: s.fields }

/-- The field and the record are finished. -/
def endRecord (s : Scanner) : Scanner :=
  { s with
    phase := .recordStart
    field := []
    fields := []
    records := ⟨s.start, (s.field.reverse :: s.fields).reverse⟩ :: s.records
    start := s.here }

/-- A byte outside quotes, where a quote has no meaning. -/
def plainByte (d : Dialect) (s : Scanner) (b : UInt8) : Scanner :=
  if b == d.delimiter then s.endField
  else if isLineEnd b then s.endRecord
  else s.keep .plain b

/-- The first byte of a field. -/
def firstByte (d : Dialect) (s : Scanner) (b : UInt8) : Scanner :=
  if b == d.quote then { s with phase := .quoted } else plainByte d s b

/-- What a scanner does with a byte once it has moved past it. -/
def read (d : Dialect) (s : Scanner) (b : UInt8) : Scanner :=
  match s.phase with
  | .recordStart => if isLineEnd b then s else firstByte d s b
  | .fieldStart => firstByte d s b
  | .plain => plainByte d s b
  | .quoted => if b == d.quote then { s with phase := .quoteSeen } else s.keep .quoted b
  | .quoteSeen => if b == d.quote then s.keep .quoted b else plainByte d s b

/-- What a scanner does with a byte. -/
def step (d : Dialect) (s : Scanner) (b : UInt8) : Scanner :=
  read d { s with here := s.here.past b } b

/-- The records found when the bytes end. -/
def finish (s : Scanner) : List Record :=
  match s.phase with
  | .recordStart => s.records.reverse
  | _ => s.endRecord.records.reverse

end Scanner

/-- The records of bytes that begin at a place. -/
def recordsFrom (d : Dialect) (here : Position) (bytes : List UInt8) : List Record :=
  (bytes.foldl (Scanner.step d) (Scanner.init here)).finish

/-- The records of some bytes. A byte order mark in front is passed over. -/
def records (d : Dialect) : List UInt8 → List Record
  | 0xEF :: 0xBB :: 0xBF :: rest => recordsFrom d ⟨3, 1⟩ rest
  | bytes => recordsFrom d .origin bytes

end Csv

end Worksheet
