/-!
# Command Line Arguments

Which command some arguments ask for.

The first argument names the command. Among the others, one that begins with
a dash is an option, unless it is the dash alone or stands behind a double
dash; the rest are operands. An option is written with its long name behind
two dashes or with its letter behind one. Its value is the next argument, or
follows directly: behind an equals sign, or behind the letter. A value in an
argument of its own cannot begin with a dash. Options that do not repeat come
at most once, and a path is never empty.

Arguments that do not fit ask for nothing; there is one way to be right and
no telling in how many ways they are wrong. The requests for help and for the
version are left out and count among those that do not fit.

## Main definitions

* `Command`: What a program can be asked for.
* `Arguments.Spec`: An option of a command.
* `Arguments.Found`: The options and operands among some arguments.
* `Arguments.scan`: Telling options from operands.
* `Command.ofArguments?`: The command that some arguments ask for.
-/

namespace Worksheet

/-- What a program can be asked for. -/
inductive Command where
  /-- Show what a cell with a text would show, next to the cells of a sheet
      and some assignments to cells. -/
  | eval (formula : String) (sheet : Option String) (assignments : List String) (delimiter : Char)
  /-- Write a sheet with its formulas replaced by what they show, or raw. -/
  | render (input : String) (output : Option String) (raw : Bool) (delimiter : Char)
  /-- Describe a sheet. -/
  | info (input : String)
  deriving DecidableEq, Repr

namespace Arguments

/-- An option of a command. -/
structure Spec where
  /-- The long name. -/
  name : String
  /-- The letter, if it has one. -/
  letter : Option Char
  /-- It comes with a value. -/
  hasValue : Bool

/-- The options and operands among some arguments, latest first. -/
structure Found where
  /-- The options by their long names, each with its value. -/
  options : List (String × String)
  /-- The operands. -/
  operands : List String

/-- Nothing found. -/
def Found.empty : Found :=
  ⟨[], []⟩

/-- One more option. -/
def Found.option (found : Found) (name value : String) : Found :=
  { found with options := (name, value) :: found.options }

/-- One more operand. -/
def Found.operand (found : Found) (value : String) : Found :=
  { found with operands := value :: found.operands }

/-- What an argument is by itself. -/
inductive Kind where
  /-- The double dash, behind which all arguments are operands. -/
  | escape
  /-- An operand, or the value of an option. -/
  | plain
  /-- An option with its long name, and the value attached to it. -/
  | long (name : String) (attached : Option String)
  /-- An option with its letter, and what follows the letter. -/
  | short (letter : Char) (attached : List Char)

/-- What an argument is by itself. -/
def kind (argument : String) : Kind :=
  match argument.toList with
  | ['-', '-'] => .escape
  | '-' :: '-' :: cs =>
    match cs.dropWhile (· != '=') with
    | [] => .long (String.ofList cs) none
    | _ :: value => .long (String.ofList (cs.takeWhile (· != '='))) (some (String.ofList value))
  | '-' :: letter :: cs => .short letter cs
  | _ => .plain

/-- The value attached to a letter. An equals sign in front of it is not part
    of it. -/
def attachedValue : List Char → Option String
  | [] => none
  | '=' :: cs => some (String.ofList cs)
  | cs => some (String.ofList cs)

/-- The option that an argument is, and the value attached to it. -/
def option? (specs : List Spec) : Kind → Option (Spec × Option String)
  | .long name attached => (specs.find? (·.name == name)).map (·, attached)
  | .short letter attached =>
    (specs.find? (·.letter == some letter)).map (·, attachedValue attached)
  | _ => none

/-- Some arguments told apart; none when an option is not known, lacks its
    value or has one that it should not have. -/
def scan (specs : List Spec) (found : Found) : List String → Option Found
  | [] => some found
  | argument :: rest =>
    match kind argument with
    | .plain => scan specs (found.operand argument) rest
    | .escape => some (rest.foldl Found.operand found)
    | k =>
      match option? specs k, rest with
      | some (spec, some value), rest =>
        if spec.hasValue then scan specs (found.option spec.name value) rest else none
      | some (spec, none), value :: rest' =>
        if spec.hasValue then
          match kind value with
          | .plain => scan specs (found.option spec.name value) rest'
          | _ => none
        else
          scan specs (found.option spec.name "") (value :: rest')
      | some (spec, none), [] =>
        if spec.hasValue then none else some (found.option spec.name "")
      | none, _ => none

/-- The values of an option, in the order they were given. -/
def Found.values (found : Found) (name : String) : List String :=
  (found.options.filter (·.1 == name)).reverse.map Prod.snd

/-- The value of an option that comes at most once; none when it comes more
    often. -/
def Found.single? (found : Found) (name : String) : Option (Option String) :=
  match found.values name with
  | [] => some none
  | [value] => some (some value)
  | _ => none

/-- A path that is not empty. -/
def path? (value : String) : Option String :=
  if value.isEmpty then none else some value

/-- The path given by an option that comes at most once. -/
def Found.singlePath? (found : Found) (name : String) : Option (Option String) :=
  match found.single? name with
  | some (some value) => (path? value).map some
  | other => other

/-- The option that tells the delimiter. -/
def delimiterSpec : Spec :=
  ⟨"delimiter", some 'd', true⟩

/-- The delimiter, a comma when none is given; none when it is not a single
    character. -/
def Found.delimiter? (found : Found) : Option Char :=
  match found.single? "delimiter" with
  | some none => some ','
  | some (some value) =>
    match value.toList with
    | [c] => some c
    | _ => none
  | none => none

/-- The only operand. -/
def Found.operand? (found : Found) : Option String :=
  match found.operands with
  | [value] => some value
  | _ => none

end Arguments

namespace Command

open Arguments

/-- The evaluation that some arguments ask for. -/
def evalOf? (arguments : List String) : Option Command := do
  let specs := [⟨"sheet", some 's', true⟩, ⟨"set", none, true⟩, delimiterSpec]
  let found ← scan specs .empty arguments
  let formula ← found.operand?
  let sheet ← found.singlePath? "sheet"
  let delimiter ← found.delimiter?
  return .eval formula sheet (found.values "set") delimiter

/-- The rendering that some arguments ask for. -/
def renderOf? (arguments : List String) : Option Command := do
  let specs := [⟨"output", some 'o', true⟩, ⟨"raw", none, false⟩, delimiterSpec]
  let found ← scan specs .empty arguments
  let input ← found.operand? >>= path?
  let output ← found.singlePath? "output"
  let raw ← found.single? "raw"
  let delimiter ← found.delimiter?
  return .render input output raw.isSome delimiter

/-- The description that some arguments ask for. -/
def infoOf? (arguments : List String) : Option Command := do
  let found ← scan [] .empty arguments
  let input ← found.operand? >>= path?
  return .info input

/-- The command that some arguments ask for, if they fit. -/
def ofArguments? : List String → Option Command
  | "eval" :: rest => evalOf? rest
  | "render" :: rest => renderOf? rest
  | "info" :: rest => infoOf? rest
  | _ => none

end Command

end Worksheet
