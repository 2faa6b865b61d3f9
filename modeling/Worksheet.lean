import Worksheet.Json.Document
import Worksheet.Main
import Worksheet.Number.Bits
import Worksheet.Proofs.Address.Numerals
import Worksheet.Proofs.Address.Printed
import Worksheet.Proofs.Command.Evaluation
import Worksheet.Proofs.Command.Files
import Worksheet.Proofs.Command.Rendering
import Worksheet.Proofs.Csv.Reading
import Worksheet.Proofs.Formula.Blanks
import Worksheet.Proofs.Formula.Case
import Worksheet.Proofs.Formula.Integer
import Worksheet.Proofs.Formula.Notation
import Worksheet.Proofs.Formula.Overflow
import Worksheet.Proofs.Formula.Rectangle
import Worksheet.Proofs.Formula.Unknown
import Worksheet.Proofs.Number.Accepted
import Worksheet.Proofs.Number.Bits
import Worksheet.Proofs.Number.Decimal
import Worksheet.Proofs.Number.Layout
import Worksheet.Proofs.Number.Nearest
import Worksheet.Proofs.Number.Printed
import Worksheet.Proofs.Number.Radix
import Worksheet.Proofs.Number.Shortest
import Worksheet.Proofs.Range.Count
import Worksheet.Proofs.Range.Printed
import Worksheet.Proofs.Sheet.Evaluation
import Worksheet.Proofs.Sheet.File
import Worksheet.Proofs.Sheet.Order
import Worksheet.Proofs.Sheet.Picture
import Worksheet.Proofs.Sheet.Rendered
import Worksheet.Proofs.Sheet.Restored
import Worksheet.Proofs.Sheet.Saved
import Worksheet.Sheet.Saved
