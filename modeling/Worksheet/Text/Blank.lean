/-!
# White Space and Blanks

Which characters count as empty space, and how text loses them at its ends.

Two classes are in use. `isWhite` is the Unicode property White_Space, and it
is what addresses and trimmed fields are cleaned of. `isBlank` is the class
around formulas and numbers: it leaves out the next-line control, which is
data, and takes in the byte order mark, because exported files often carry
one at the start of their first cell.

Trimming is stated once, for any class, on lists of characters.

## Main definitions

* `whiteRanges`: The code points of White_Space, as closed ranges.
* `isWhite`, `isBlank`: The two classes.
* `trimLeft`, `trimRight`, `trim`: Dropping a class of characters at the ends.
* `isLineBreak`: The characters an operand may not span.
-/

namespace Worksheet

namespace Text

/-- The Unicode property White_Space, as closed ranges of code points. -/
def whiteRanges : List (Nat × Nat) :=
  [(0x09, 0x0D), (0x20, 0x20), (0x85, 0x85), (0xA0, 0xA0), (0x1680, 0x1680),
   (0x2000, 0x200A), (0x2028, 0x2029), (0x202F, 0x202F), (0x205F, 0x205F), (0x3000, 0x3000)]

/-- The character has the Unicode property White_Space. -/
def isWhite (c : Char) : Bool :=
  whiteRanges.any fun r => r.1 ≤ c.toNat && c.toNat ≤ r.2

/-- The character is blank around formulas and numbers: white space without
    the next-line control, and the byte order mark. -/
def isBlank (c : Char) : Bool :=
  c == '\uFEFF' || (isWhite c && c != '\u0085')

/-- The character ends a line, so that an operand cannot hold it. -/
def isLineBreak (c : Char) : Bool :=
  c == '\n' || c == '\r' || c == '\u2028' || c == '\u2029'

/-- The text without the leading characters of a class. -/
def trimLeft (p : Char → Bool) (cs : List Char) : List Char :=
  cs.dropWhile p

/-- The text without the trailing characters of a class. -/
def trimRight (p : Char → Bool) (cs : List Char) : List Char :=
  (cs.reverse.dropWhile p).reverse

/-- The text without the characters of a class at either end. -/
def trim (p : Char → Bool) (cs : List Char) : List Char :=
  trimRight p (trimLeft p cs)

end Text

end Worksheet
