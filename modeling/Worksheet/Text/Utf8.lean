/-!
# UTF-8

Bytes as text and back.

Text is written with one to four bytes for each character. Bytes are read one
character at a time by a small machine: the first byte of a character says how
many bytes belong to it and narrows the second one, so that no character has
two spellings, none is a surrogate and none is too large.

Bytes that are no text can still be dealt with in two ways. `validLength` says
how many of them are good, and `decodeLossy` puts the replacement character in
place of each stretch of bytes that could have started a character and did
not finish one.

## Main definitions

* `encode`: The bytes of some characters.
* `Lead`: What the first byte of a character announces.
* `step`: The character that starts with a byte.
* `cut`: The characters of some bytes and the stretches between them.
* `decode?`: The characters of some bytes, if they are text.
* `validLength`: The number of bytes in front of the first stretch that is
  no character.
* `decodeLossy`: The characters of some bytes, with replacements.
-/

namespace Worksheet

namespace Utf8

/-- The bytes of some characters. -/
def encode (cs : List Char) : List UInt8 :=
  cs.flatMap String.utf8EncodeChar

/-- What the first byte of a character announces. -/
structure Lead where
  /-- The bits of the character in the first byte. -/
  bits : Nat
  /-- The number of bytes that follow. -/
  tails : Nat
  /-- The least byte that may come second. -/
  low : Nat
  /-- The greatest byte that may come second. -/
  high : Nat

/-- What a first byte announces; none when no character starts with it. -/
def lead? (b : UInt8) : Option Lead :=
  let n := b.toNat
  if n < 0x80 then some ⟨n, 0, 0, 0⟩
  else if n < 0xC2 then none
  else if n < 0xE0 then some ⟨n - 0xC0, 1, 0x80, 0xBF⟩
  else if n = 0xE0 then some ⟨0, 2, 0xA0, 0xBF⟩
  else if n = 0xED then some ⟨0xD, 2, 0x80, 0x9F⟩
  else if n < 0xF0 then some ⟨n - 0xE0, 2, 0x80, 0xBF⟩
  else if n = 0xF0 then some ⟨0, 3, 0x90, 0xBF⟩
  else if n < 0xF4 then some ⟨n - 0xF0, 3, 0x80, 0xBF⟩
  else if n = 0xF4 then some ⟨4, 3, 0x80, 0x8F⟩
  else none

/-- The rest of a character: so many further bytes, the first of them between
    two bounds, each adding six bits. Gives the character, if it is finished,
    and the bytes behind what was read of it. -/
def tail (bits tails low high : Nat) (bytes : List UInt8) : Option Char × List UInt8 :=
  match tails, bytes with
  | 0, rest => (some (Char.ofNat bits), rest)
  | _ + 1, [] => (none, [])
  | n + 1, b :: rest =>
    if low ≤ b.toNat ∧ b.toNat ≤ high then
      tail (bits * 64 + (b.toNat - 0x80)) n 0x80 0xBF rest
    else
      (none, b :: rest)

/-- The character that starts with a byte, if there is one, and the bytes
    behind it or behind the stretch that is none. -/
def step (b : UInt8) (rest : List UInt8) : Option Char × List UInt8 :=
  match lead? b with
  | none => (none, rest)
  | some l => tail l.bits l.tails l.low l.high rest

theorem length_tail (bits tails low high : Nat) (bytes : List UInt8) :
    (tail bits tails low high bytes).2.length ≤ bytes.length := by
  fun_induction tail bits tails low high bytes with
  | case1 => exact Nat.le_refl _
  | case2 => exact Nat.le_refl _
  | case3 _ _ _ _ _ _ _ ih => exact Nat.le_succ_of_le ih
  | case4 => exact Nat.le_refl _

theorem length_step (b : UInt8) (rest : List UInt8) :
    (step b rest).2.length ≤ rest.length := by
  unfold step
  split
  · exact Nat.le_refl _
  · exact length_tail _ _ _ _ _

/-- The bytes cut into characters and stretches that are none, behind those
    that were cut before, latest first. -/
def cutOnto (before : List (Option Char)) : List UInt8 → List (Option Char)
  | [] => before.reverse
  | b :: rest => cutOnto ((step b rest).1 :: before) (step b rest).2
  termination_by bytes => bytes.length
  decreasing_by exact Nat.lt_succ_of_le (length_step b rest)

/-- The bytes cut into characters and stretches that are none. -/
def cut (bytes : List UInt8) : List (Option Char) :=
  cutOnto [] bytes

/-- The characters of some bytes, if the bytes are text. -/
def decode? (bytes : List UInt8) : Option (List Char) :=
  (cut bytes).mapM id

/-- The number of bytes in front of the first stretch that is no character. -/
def validLength (bytes : List UInt8) : Nat :=
  (encode (((cut bytes).takeWhile Option.isSome).filterMap id)).length

/-- The characters of some bytes, with a replacement for every stretch that is
    no character. -/
def decodeLossy (bytes : List UInt8) : List Char :=
  (cut bytes).map fun c => c.getD '\uFFFD'

end Utf8

end Worksheet
