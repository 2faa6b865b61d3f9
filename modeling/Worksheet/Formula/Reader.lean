import Worksheet.Formula.Basic
import Worksheet.Number.Literal

/-!
# Reading Formulas

From a cell's text to what it is.

A text is a formula when it starts with an equals sign, blanks aside. The
forms are tried in a fixed order on the rest, its body, and the first that
fits decides: the call of an aggregate, then an operation, then a number. Once
a body is a call of an aggregate, an argument that is no range is an error
and no other form is tried.

The sign of an operation is the first one that has text on both sides of it,
where neither text holds a line break; so a sign at the start of the body
belongs to its first operand.

## Main definitions

* `Formula.splitCall?`: An aggregate and the argument it is called with.
* `Formula.operationAt?`: The operation at a place in a body.
* `Formula.splitOperation?`: An operation and the texts on its two sides.
* `Operand.ofChars`: What one side of an operation is.
* `Formula.rejection`: Why a body has none of the forms.
* `Formula.ofBody`: The formula a body is.
* `Formula.ofText`: What a cell's text is.
-/

namespace Worksheet

/-- What one side of an operation is. -/
def Operand.ofChars (cs : List Char) : Operand :=
  match Reference.ofChars? cs with
  | some r => .reference r
  | none =>
    match Number.ofChars? cs with
    | some x => .number x
    | none => .invalid (String.ofList cs)

namespace Formula

/-- The aggregate a body calls and the argument of the call: a name of three
    letters and, in parentheses, a text that is not empty and holds no closing
    parenthesis. -/
def splitCall? (body : List Char) : Option (Aggregate × List Char) :=
  match Aggregate.ofName? (body.take 3), body.drop 3 with
  | some f, '(' :: rest =>
    let argument := rest.dropLast
    if rest.getLast? = some ')' ∧ argument ≠ [] ∧ ')' ∉ argument then
      some (f, argument)
    else
      none
  | _, _ => none

/-- The text is one side of an operation: it is not empty and holds no line
    break. -/
def isSide (cs : List Char) : Bool :=
  !cs.isEmpty && !cs.any Text.isLineBreak

/-- The operation whose sign stands between two texts, the first of them read
    backwards, and its two sides. -/
def operationAt? (before : List Char) (c : Char) (after : List Char) :
    Option (Operator × List Char × List Char) :=
  match Operator.ofSign? c with
  | none => none
  | some op =>
    let left := Text.trim Text.isBlank before.reverse
    let right := Text.trim Text.isBlank after
    if isSide left && isSide right then some (op, left, right) else none

/-- The first operation whose sign stands behind a text, read backwards. -/
def splitOperationFrom? (before : List Char) :
    List Char → Option (Operator × List Char × List Char)
  | [] => none
  | c :: after =>
    match operationAt? before c after with
    | some found => some found
    | none => splitOperationFrom? (c :: before) after

/-- The operation of a body and its two sides. -/
def splitOperation? : List Char → Option (Operator × List Char × List Char)
  | [] => none
  | c :: rest => splitOperationFrom? [c] rest

/-- The character can stand in the name of a function. -/
def isNameChar (c : Char) : Bool :=
  c.isAlphanum || c == '.' || c == '_'

/-- Why a body has none of the forms of a formula. -/
def rejection (body : List Char) : Error :=
  let name := body.takeWhile isNameChar
  let looksLikeCall :=
    (name.head?.any Char.isAlpha) && (body.dropWhile isNameChar).head? == some '('
  if body.isEmpty then .empty
  else if looksLikeCall then .unknownFunction (String.ofList (name.map Char.toUpper))
  else .unrecognized (String.ofList body)

/-- The call of an aggregate with an argument. -/
def ofCall (f : Aggregate) (argument : List Char) : Except Error Formula :=
  let trimmed := Text.trim Text.isBlank argument
  match Corners.ofChars? trimmed with
  | some corners => .ok (.aggregate f corners)
  | none => .error (.malformedRange (String.ofList trimmed))

/-- The formula that a body without blanks at its ends is. -/
def ofBody (body : List Char) : Except Error Formula :=
  match splitCall? body with
  | some (f, argument) => ofCall f argument
  | none =>
    match splitOperation? body with
    | some (op, left, right) => .ok (.binary op (Operand.ofChars left) (Operand.ofChars right))
    | none =>
      match Number.ofChars? body with
      | some x => .ok (.number x)
      | none => .error (rejection body)

/-- What a cell's text is. -/
def ofText (text : String) : Except Error Formula :=
  match Text.trim Text.isBlank text.toList with
  | '=' :: rest => ofBody (Text.trim Text.isBlank rest)
  | _ => .ok (.literal text)

end Formula

end Worksheet
