import Worksheet.Json.Literal

/-!
# JSON Tokens

The pieces that a JSON text consists of: six signs, and values without parts.

A text in quotes may hold escapes, a backslash with a letter or with four
hexadecimal digits. The digits give a unit of 16 bits; a character beyond the
units is given by two of them, one that leads and one that trails. Anything
else between signs, quotes and blanks is a word, which has to be a number, a
truth value or nothing.

A text is taken apart by walking over its characters once. The tokens found so
far and the piece that is being read are all there is to remember.

## Main definitions

* `Json.Token`: A piece of a JSON text.
* `Json.unescape`: The text that characters in quotes stand for.
* `Json.wordValue?`: The value of a word.
* `Json.Lexer`: The tokens found so far and the piece being read.
* `Json.Token.ofChars?`: The tokens of a text.
-/

namespace Worksheet

namespace Json

/-- A piece of a JSON text. -/
inductive Token where
  /-- An array begins. -/
  | openArray
  /-- An array ends. -/
  | closeArray
  /-- An object begins. -/
  | openObject
  /-- An object ends. -/
  | closeObject
  /-- Something more follows. -/
  | comma
  /-- The value of a member follows. -/
  | colon
  /-- A value without parts. -/
  | value (v : Json)

/-- The sign that a character is. -/
def Token.ofSign? (c : Char) : Option Token :=
  match c with
  | '[' => some .openArray
  | ']' => some .closeArray
  | '\x7b' => some .openObject
  | '\x7d' => some .closeObject
  | ',' => some .comma
  | ':' => some .colon
  | _ => none

/-- The character may stand between tokens. -/
def isSpace (c : Char) : Bool :=
  c == ' ' || c == '\t' || c == '\n' || c == '\r'

/-- The character that a letter behind a backslash stands for. -/
def escaped? (c : Char) : Option Char :=
  match c with
  | '"' => some '"'
  | '\\' => some '\\'
  | '/' => some '/'
  | 'b' => some '\x08'
  | 'f' => some '\x0c'
  | 'n' => some '\n'
  | 'r' => some '\r'
  | 't' => some '\t'
  | _ => none

/-- The unit of 16 bits that four hexadecimal digits stand for. -/
def unit? (digits : List Char) : Option Nat :=
  (digits.mapM (Number.digitOfRadix? 16)).map (Numeral.value 16)

/-- The unit leads a pair. -/
def leads (unit : Nat) : Bool :=
  0xD800 ≤ unit && unit < 0xDC00

/-- The unit trails in a pair. -/
def trails (unit : Nat) : Bool :=
  0xDC00 ≤ unit && unit < 0xE000

/-- The character of a pair of units. -/
def pairChar (leading trailing : Nat) : Char :=
  Char.ofNat (0x10000 + (leading - 0xD800) * 0x400 + (trailing - 0xDC00))

/-- The text that characters in quotes stand for, behind some that have been
    read, latest first, and a unit that still lacks the one to trail it. -/
def unescape (reversed : List Char) (leading : Option Nat) : List Char → Option (List Char)
  | [] => if leading.isSome then none else some reversed.reverse
  | '\\' :: 'u' :: a :: b :: c :: d :: rest => do
    let unit ← unit? [a, b, c, d]
    match leading with
    | some first =>
      if trails unit then unescape (pairChar first unit :: reversed) none rest else none
    | none =>
      if leads unit then unescape reversed (some unit) rest
      else if trails unit then none
      else unescape (Char.ofNat unit :: reversed) none rest
  | '\\' :: c :: rest => do
    let meant ← escaped? c
    if leading.isSome then none else unescape (meant :: reversed) none rest
  | c :: rest =>
    if leading.isSome || c == '\\' then none else unescape (c :: reversed) none rest

/-- The value of a word. -/
def wordValue? (cs : List Char) : Option Json :=
  if cs = "null".toList then some .null
  else if cs = "true".toList then some (.bool true)
  else if cs = "false".toList then some (.bool false)
  else Literal.ofChars? cs >>= Literal.value?

/-- The piece that is being read, its characters latest first. -/
inductive Piece where
  /-- None. -/
  | nothing
  /-- A word. -/
  | word (reversed : List Char)
  /-- A text in quotes. -/
  | quoted (reversed : List Char)
  /-- A text in quotes, right behind a backslash. -/
  | escape (reversed : List Char)

/-- The tokens found so far, latest first, and the piece being read. -/
structure Lexer where
  /-- The tokens found so far. -/
  tokens : List Token
  /-- The piece being read. -/
  piece : Piece

namespace Lexer

/-- Nothing found yet. -/
def start : Lexer :=
  ⟨[], .nothing⟩

/-- A value found, and no piece being read. -/
def found (tokens : List Token) (v : Json) : Lexer :=
  ⟨.value v :: tokens, .nothing⟩

/-- A character where no piece is being read. -/
def between (tokens : List Token) (c : Char) : Lexer :=
  if isSpace c then ⟨tokens, .nothing⟩
  else if c == '"' then ⟨tokens, .quoted []⟩
  else
    match Token.ofSign? c with
    | some sign => ⟨sign :: tokens, .nothing⟩
    | none => ⟨tokens, .word [c]⟩

/-- The character cannot be part of a word. -/
def endsWord (c : Char) : Bool :=
  isSpace c || c == '"' || (Token.ofSign? c).isSome

/-- One more character. -/
def step (l : Lexer) (c : Char) : Option Lexer :=
  match l.piece with
  | .nothing => some (between l.tokens c)
  | .word reversed =>
    if endsWord c then
      (wordValue? reversed.reverse).map fun v => between (.value v :: l.tokens) c
    else
      some ⟨l.tokens, .word (c :: reversed)⟩
  | .quoted reversed =>
    if c == '"' then
      (unescape [] none reversed.reverse).map fun cs => found l.tokens (.text (String.ofList cs))
    else if c == '\\' then some ⟨l.tokens, .escape (c :: reversed)⟩
    else some ⟨l.tokens, .quoted (c :: reversed)⟩
  | .escape reversed => some ⟨l.tokens, .quoted (c :: reversed)⟩

/-- The tokens when the text has ended. -/
def finish? (l : Lexer) : Option (List Token) :=
  match l.piece with
  | .nothing => some l.tokens.reverse
  | .word reversed =>
    (wordValue? reversed.reverse).map fun v => (Token.value v :: l.tokens).reverse
  | _ => none

end Lexer

/-- The tokens of a text. -/
def Token.ofChars? (cs : List Char) : Option (List Token) :=
  cs.foldlM Lexer.step .start >>= Lexer.finish?

end Json

end Worksheet
