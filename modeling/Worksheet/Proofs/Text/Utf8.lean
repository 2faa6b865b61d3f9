import Mathlib.Tactic.SplitIfs
import Worksheet.Text.Utf8

/-!
# Text as Bytes and Back

Reading what was written gives the text that was written.

A character is written as a first byte that announces how many follow, and
each size of character is a case of its own, with its own bounds for the
second byte. `step_encodeChar` goes through the sizes once and says what all of
them have in common: in front of anything, the bytes of a character are read
as that character and nothing more. From there on characters are units, and a
text is read by induction on its characters.

The other half is about single bytes. The bytes of a character outside ASCII
are all outside ASCII, so a byte below 128 stands for itself wherever it
occurs. This is what lets a writer of bytes put ASCII marks into a text, or
double them, and leave a text behind.

## Main definitions

* `Utf8.IsText`: The bytes are those of some characters.

## Theorems

* `step_encodeChar`: The bytes of a character are read as that character.
* `decode?_encode`: The bytes of a text are read as that text.
* `encodeChar_of_lt`, `le_of_mem_encodeChar`: The bytes of characters inside
  and outside ASCII.
* `isText_singleton`, `IsText.append`: Texts are made of ASCII bytes and texts.
* `encode_mark`, `eq_mark_of_encode_append`: A text begins with the byte order
  mark exactly when its bytes do.
-/

namespace Worksheet

namespace Utf8

theorem toNat_ofNat_of_lt {n : Nat} (h : n < 256) : (UInt8.ofNat n).toNat = n := by
  rw [UInt8.toNat_ofNat']
  exact Nat.mod_eq_of_lt h

/-- A further byte within the bounds is read, and adds six bits. -/
theorem tail_cons {bits n low high x : Nat} (rest : List UInt8) (hx : x < 64)
    (hlow : low ≤ x + 0x80) (hhigh : x + 0x80 ≤ high) :
    tail bits (n + 1) low high (UInt8.ofNat (x + 0x80) :: rest) =
      tail (bits * 64 + x) n 0x80 0xBF rest := by
  rw [tail, toNat_ofNat_of_lt (by omega), if_pos ⟨hlow, hhigh⟩, Nat.add_sub_cancel]

/-- A byte that announces more bytes is read together with them. -/
theorem step_of_lead {b : UInt8} {bits n low high : Nat} (h : lead? b = some ⟨bits, n, low, high⟩)
    (rest : List UInt8) : step b rest = tail bits n low high rest := by
  rw [step, h]

/-- What the first of two bytes announces. -/
theorem lead?_two {x : Nat} (h2 : 2 ≤ x) (h : x < 32) :
    lead? (UInt8.ofNat (x + 0xC0)) = some ⟨x, 1, 0x80, 0xBF⟩ := by
  simp only [lead?, toNat_ofNat_of_lt (show x + 0xC0 < 256 by omega)]
  rw [if_neg (by omega), if_neg (by omega), if_pos (by omega), Nat.add_sub_cancel]

/-- What the first of three bytes announces. Two of these bytes narrow down the
    next one. -/
theorem lead?_three {x : Nat} (h : x < 16) :
    ∃ low high, lead? (UInt8.ofNat (x + 0xE0)) = some ⟨x, 2, low, high⟩ ∧
      (x = 0 → low = 0xA0) ∧ (x ≠ 0 → low = 0x80) ∧
      (x = 0xD → high = 0x9F) ∧ (x ≠ 0xD → high = 0xBF) := by
  -- The second byte is narrowed at the bottom, so that two bytes would not have done,
  -- and in the middle, so that no surrogate comes out.
  simp only [lead?, toNat_ofNat_of_lt (show x + 0xE0 < 256 by omega)]
  rw [if_neg (by omega), if_neg (by omega), if_neg (by omega)]
  by_cases h0 : x = 0
  · rw [if_pos (by omega)]
    exact ⟨0xA0, 0xBF, by rw [h0], by omega, by omega, by omega, by omega⟩
  · rw [if_neg (by omega)]
    by_cases hd : x = 0xD
    · rw [if_pos (by omega)]
      exact ⟨0x80, 0x9F, by rw [hd], by omega, by omega, by omega, by omega⟩
    · rw [if_neg (by omega), if_pos (by omega), Nat.add_sub_cancel]
      exact ⟨0x80, 0xBF, rfl, by omega, by omega, by omega, by omega⟩

/-- What the first of four bytes announces. Two of these bytes narrow down the
    next one. -/
theorem lead?_four {x : Nat} (h : x ≤ 4) :
    ∃ low high, lead? (UInt8.ofNat (x + 0xF0)) = some ⟨x, 3, low, high⟩ ∧
      (x = 0 → low = 0x90) ∧ (x ≠ 0 → low = 0x80) ∧
      (x = 4 → high = 0x8F) ∧ (x ≠ 4 → high = 0xBF) := by
  -- The second byte is narrowed at the bottom, so that three bytes would not have done,
  -- and at the top, so that the character exists.
  simp only [lead?, toNat_ofNat_of_lt (show x + 0xF0 < 256 by omega)]
  rw [if_neg (by omega), if_neg (by omega), if_neg (by omega), if_neg (by omega),
    if_neg (by omega), if_neg (by omega)]
  by_cases h0 : x = 0
  · rw [if_pos (by omega)]
    exact ⟨0x90, 0xBF, by rw [h0], by omega, by omega, by omega, by omega⟩
  · rw [if_neg (by omega)]
    by_cases h4 : x = 4
    · rw [if_neg (by omega), if_pos (by omega)]
      exact ⟨0x80, 0x8F, by rw [h4], by omega, by omega, by omega, by omega⟩
    · rw [if_pos (by omega), Nat.add_sub_cancel]
      exact ⟨0x80, 0xBF, rfl, by omega, by omega, by omega, by omega⟩

/-- The code of a character is no surrogate. -/
theorem toNat_val_lt (c : Char) :
    c.val.toNat < 0xD800 ∨ 0xDFFF < c.val.toNat ∧ c.val.toNat < 0x110000 :=
  c.valid

theorem ofNat_of_eq (c : Char) {n : Nat} (h : n = c.val.toNat) : Char.ofNat n = c := by
  rw [h]
  exact Char.ofNat_toNat c

/-- In front of anything, the bytes of a character are read as that character
    and nothing more. -/
theorem step_encodeChar (c : Char) : ∃ b bs, String.utf8EncodeChar c = b :: bs ∧
    ∀ rest, step b (bs ++ rest) = (some c, rest) := by
  have hvalid := toNat_val_lt c
  unfold String.utf8EncodeChar
  generalize hv : c.val.toNat = v at hvalid ⊢
  simp only []
  -- One byte for a character of ASCII, and then two, three and four.
  split_ifs with h1 h2 h3
  · refine ⟨_, _, rfl, fun rest => ?_⟩
    have hlead : lead? (UInt8.ofNat v) = some ⟨v, 0, 0, 0⟩ := by
      simp only [lead?, toNat_ofNat_of_lt (show v < 256 by omega)]
      rw [if_pos (by omega)]
    rw [step_of_lead hlead, List.nil_append, tail, ofNat_of_eq c hv.symm]
  · refine ⟨_, _, rfl, fun rest => ?_⟩
    have hlead := lead?_two (show 2 ≤ v / 64 % 32 by omega) (by omega)
    rw [step_of_lead hlead, List.cons_append, List.nil_append,
      tail_cons rest (by omega) (by omega) (by omega), tail, ofNat_of_eq c (by omega)]
  · refine ⟨_, _, rfl, fun rest => ?_⟩
    rcases lead?_three (show v / 4096 % 16 < 16 by omega) with ⟨low, high, hlead, hl, hl', hh, hh'⟩
    rw [step_of_lead hlead, List.cons_append, List.cons_append, List.nil_append,
      tail_cons _ (by omega) (by omega) (by omega), tail_cons rest (by omega) (by omega) (by omega),
      tail, ofNat_of_eq c (by omega)]
  · refine ⟨_, _, rfl, fun rest => ?_⟩
    rcases lead?_four (show v / 262144 % 8 ≤ 4 by omega) with ⟨low, high, hlead, hl, hl', hh, hh'⟩
    rw [step_of_lead hlead, List.cons_append, List.cons_append, List.cons_append, List.nil_append,
      tail_cons _ (by omega) (by omega) (by omega), tail_cons _ (by omega) (by omega) (by omega),
      tail_cons rest (by omega) (by omega) (by omega), tail, ofNat_of_eq c (by omega)]

/-- Characters are encoded one after the other. -/
theorem encode_cons (c : Char) (cs : List Char) :
    encode (c :: cs) = String.utf8EncodeChar c ++ encode cs := by
  rw [encode, List.flatMap_cons, encode]

/-- Texts are encoded one after the other. -/
theorem encode_append (cs ds : List Char) : encode (cs ++ ds) = encode cs ++ encode ds := by
  rw [encode, List.flatMap_append, encode, encode]

/-- Cutting goes on behind a text with its characters cut off. -/
theorem cutOnto_encode (cs : List Char) (rest : List UInt8) :
    ∀ before, cutOnto before (encode cs ++ rest) =
      cutOnto ((cs.map some).reverse ++ before) rest := by
  -- What was cut before is left open, since every character is put onto it.
  induction cs with
  | nil => intro before; rfl
  | cons c cs ih =>
      intro before
      rcases step_encodeChar c with ⟨b, bs, hbytes, hstep⟩
      rw [encode_cons, hbytes, List.append_assoc, List.cons_append, cutOnto, hstep, ih]
      simp only [List.map_cons, List.reverse_cons, List.append_assoc, List.cons_append,
        List.nil_append]

/-- The encoding of some characters is cut into these characters. -/
theorem cut_encode (cs : List Char) : cut (encode cs) = cs.map some := by
  have h := cutOnto_encode cs [] []
  rw [List.append_nil, List.append_nil] at h
  rw [cut, h, cutOnto, List.reverse_reverse]

theorem mapM_id_map_some (cs : List Char) : (cs.map some).mapM id = some cs := by
  have h : cs.mapM (fun c => (pure c : Option Char)) = pure (cs.map id) :=
    List.mapM_pure (f := id)
  rw [List.map_id] at h
  rw [List.mapM_map]
  exact h

/-- What is encoded is decoded. -/
theorem decode?_encode (cs : List Char) : decode? (encode cs) = some cs := by
  rw [decode?, cut_encode, mapM_id_map_some]

/-- The bytes are those of some characters. -/
def IsText (bytes : List UInt8) : Prop :=
  ∃ cs, encode cs = bytes

theorem isText_nil : IsText [] :=
  ⟨[], rfl⟩

theorem isText_encode (cs : List Char) : IsText (encode cs) :=
  ⟨cs, rfl⟩

/-- Two texts behind each other are a text. -/
theorem IsText.append {xs ys : List UInt8} (hx : IsText xs) (hy : IsText ys) :
    IsText (xs ++ ys) := by
  rcases hx with ⟨cs, rfl⟩
  rcases hy with ⟨ds, rfl⟩
  exact ⟨cs ++ ds, encode_append cs ds⟩

/-- Any number of texts one behind the other are a text. -/
theorem isText_flatMap {α : Type} {f : α → List UInt8} (l : List α) (h : ∀ x ∈ l, IsText (f x)) :
    IsText (l.flatMap f) := by
  induction l with
  | nil => exact isText_nil
  | cons x l ih =>
      rw [List.flatMap_cons]
      exact (h x List.mem_cons_self).append (ih fun y hy => h y (List.mem_cons_of_mem x hy))

/-- Bytes that are a text are decoded as it. -/
theorem IsText.decode?_isSome {bytes : List UInt8} (h : IsText bytes) :
    ∃ cs, decode? bytes = some cs ∧ encode cs = bytes := by
  rcases h with ⟨cs, rfl⟩
  exact ⟨cs, decode?_encode cs, rfl⟩

/-- A character of ASCII is its own byte. -/
theorem encodeChar_of_lt {c : Char} (h : c.val.toNat < 128) :
    String.utf8EncodeChar c = [UInt8.ofNat c.val.toNat] := by
  unfold String.utf8EncodeChar
  exact if_pos (by omega)

/-- No byte of a character outside ASCII is in ASCII. -/
theorem le_of_mem_encodeChar {c : Char} (h : 128 ≤ c.val.toNat) {b : UInt8}
    (hb : b ∈ String.utf8EncodeChar c) : 128 ≤ b.toNat := by
  unfold String.utf8EncodeChar at hb
  simp only [] at hb
  -- Every byte has the form `x + m` with a mark `m` of at least 128.
  have hmark : ∀ x m : Nat, 128 ≤ m → x + m < 256 → 128 ≤ (UInt8.ofNat (x + m)).toNat := by
    intro x m hm hlt
    rw [toNat_ofNat_of_lt hlt]
    omega
  split_ifs at hb with h1 h2 h3
  · omega
  · simp only [List.mem_cons, List.not_mem_nil, or_false] at hb
    rcases hb with rfl | rfl
    · exact hmark _ _ (by omega) (by omega)
    · exact hmark _ _ (by omega) (by omega)
  · simp only [List.mem_cons, List.not_mem_nil, or_false] at hb
    rcases hb with rfl | rfl | rfl
    · exact hmark _ _ (by omega) (by omega)
    · exact hmark _ _ (by omega) (by omega)
    · exact hmark _ _ (by omega) (by omega)
  · simp only [List.mem_cons, List.not_mem_nil, or_false] at hb
    rcases hb with rfl | rfl | rfl | rfl
    · exact hmark _ _ (by omega) (by omega)
    · exact hmark _ _ (by omega) (by omega)
    · exact hmark _ _ (by omega) (by omega)
    · exact hmark _ _ (by omega) (by omega)

/-- A byte of ASCII is a text of one character. -/
theorem isText_singleton {b : UInt8} (h : b.toNat < 128) : IsText [b] := by
  have hval : (Char.ofNat b.toNat).val.toNat = b.toNat := by
    rw [Char.ofNat, dif_pos (Or.inl (by omega))]
    rfl
  refine ⟨[Char.ofNat b.toNat], ?_⟩
  rw [encode, List.flatMap_singleton, encodeChar_of_lt (by omega), hval, UInt8.ofNat_toNat]

/-- The byte order mark is written as three bytes. -/
theorem encode_mark (cs : List Char) :
    encode ('\uFEFF' :: cs) = 0xEF :: 0xBB :: 0xBF :: encode cs :=
  encode_cons '\uFEFF' cs

/-- Only the empty text has no bytes. -/
theorem encode_eq_nil_iff {cs : List Char} : encode cs = [] ↔ cs = [] := by
  cases cs with
  | nil => exact ⟨fun _ => rfl, fun _ => rfl⟩
  | cons c cs =>
      rcases step_encodeChar c with ⟨b, bs, hbytes, -⟩
      rw [encode_cons, hbytes, List.cons_append]
      exact ⟨fun h => absurd h (List.cons_ne_nil _ _), fun h => absurd h (List.cons_ne_nil _ _)⟩

/-- Bytes that begin with a character and with the bytes of the byte order mark
    begin with the mark. -/
theorem eq_mark_of_encode_append {c : Char} {cs : List Char} {tail rest : List UInt8}
    (h : encode (c :: cs) ++ tail = 0xEF :: 0xBB :: 0xBF :: rest) : c = '\uFEFF' := by
  rcases step_encodeChar c with ⟨b, bs, hbytes, hstep⟩
  rw [encode_cons, hbytes, List.cons_append, List.cons_append, List.append_assoc,
    List.cons.injEq] at h
  -- The same bytes are read as the character and as the mark.
  have hread := hstep (encode cs ++ tail)
  rw [h.1, h.2] at hread
  have hmark : step 0xEF (0xBB :: 0xBF :: rest) = (some '\uFEFF', rest) := rfl
  rw [hmark, Prod.mk.injEq, Option.some.injEq] at hread
  exact hread.1.symm

/-- A text whose bytes begin with those of the byte order mark begins with
    it. -/
theorem head?_of_mark {cs : List Char} {rest : List UInt8}
    (h : encode cs = 0xEF :: 0xBB :: 0xBF :: rest) : cs.head? = some '\uFEFF' := by
  cases cs with
  | nil => exact absurd (encode_eq_nil_iff.mpr rfl) (by rw [h]; exact List.cons_ne_nil _ _)
  | cons c cs =>
      rw [← List.append_nil (encode _)] at h
      rw [List.head?_cons, eq_mark_of_encode_append h]

end Utf8

end Worksheet
