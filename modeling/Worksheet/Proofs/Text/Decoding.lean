import Worksheet.Proofs.Text.Utf8

/-!
# Bytes that Are Text

That bytes are read as a text only when they are its bytes.

The first byte of a character tells how many bytes follow and narrows the
second one, so the bits that are put together were taken apart in the same
way: the shorter sizes could not hold them, and they are those of a character.
A character that was cut off the front is therefore written as the very bytes
that were cut off. Nothing is skipped between two characters of a text, so the
bytes as a whole are those of the characters.

With this, bytes can be read as a text exactly when they are a text.

## Theorems

* `lead?_cases`: What a first byte announces.
* `encodeChar_of_step`: A character that is read is written as its bytes.
* `decode?_eq_some_iff`: Bytes are read as a text exactly when they are its
  bytes.
-/

namespace Worksheet

namespace Utf8

/-- What a first byte announces, by the number of bytes that follow. -/
theorem lead?_cases {b : UInt8} {l : Lead} (h : lead? b = some l) :
    (b.toNat < 128 ∧ l = ⟨b.toNat, 0, 0, 0⟩) ∨
    (∃ x, 2 ≤ x ∧ x < 32 ∧ b.toNat = x + 0xC0 ∧ l = ⟨x, 1, 0x80, 0xBF⟩) ∨
    (∃ x low high, x < 16 ∧ b.toNat = x + 0xE0 ∧ l = ⟨x, 2, low, high⟩ ∧ 0x80 ≤ low ∧ high ≤ 0xBF ∧
      (x = 0 → low = 0xA0) ∧ (x = 0xD → high = 0x9F)) ∨
    (∃ x low high, x ≤ 4 ∧ b.toNat = x + 0xF0 ∧ l = ⟨x, 3, low, high⟩ ∧ 0x80 ≤ low ∧ high ≤ 0xBF ∧
      (x = 0 → low = 0x90) ∧ (x = 4 → high = 0x8F)) := by
  unfold lead? at h
  simp only [] at h
  split_ifs at h with h1 h2 h3 h4 h5 h6 h7 h8 h9
  · exact .inl ⟨h1, (Option.some.inj h).symm⟩
  · exact .inr (.inl ⟨b.toNat - 0xC0, by omega, by omega, by omega, (Option.some.inj h).symm⟩)
  · exact .inr (.inr (.inl ⟨0, _, _, by omega, by omega, (Option.some.inj h).symm, by omega,
      by omega, by omega, by omega⟩))
  · exact .inr (.inr (.inl ⟨0xD, _, _, by omega, by omega, (Option.some.inj h).symm, by omega,
      by omega, by omega, by omega⟩))
  · exact .inr (.inr (.inl ⟨b.toNat - 0xE0, _, _, by omega, by omega, (Option.some.inj h).symm,
      by omega, by omega, by omega, by omega⟩))
  · exact .inr (.inr (.inr ⟨0, _, _, by omega, by omega, (Option.some.inj h).symm, by omega,
      by omega, by omega, by omega⟩))
  · exact .inr (.inr (.inr ⟨b.toNat - 0xF0, _, _, by omega, by omega, (Option.some.inj h).symm,
      by omega, by omega, by omega, by omega⟩))
  · exact .inr (.inr (.inr ⟨4, _, _, by omega, by omega, (Option.some.inj h).symm, by omega,
      by omega, by omega, by omega⟩))

/-- A further byte that is read is within the bounds and adds six bits. -/
theorem exists_of_tail {bits n low high : Nat} {bytes rest : List UInt8} {c : Char}
    (hlow : 0x80 ≤ low) (hhigh : high ≤ 0xBF)
    (h : tail bits (n + 1) low high bytes = (some c, rest)) :
    ∃ x behind, bytes = UInt8.ofNat (x + 0x80) :: behind ∧ x < 64 ∧ low ≤ x + 0x80 ∧
      x + 0x80 ≤ high ∧ tail (bits * 64 + x) n 0x80 0xBF behind = (some c, rest) := by
  cases bytes with
  | nil =>
      simp only [tail, Prod.mk.injEq, reduceCtorEq, false_and] at h
  | cons b behind =>
      rw [tail] at h
      split_ifs at h with hbounds
      · refine ⟨b.toNat - 0x80, behind, ?_, by omega, by omega, by omega, h⟩
        rw [Nat.sub_add_cancel (by omega), UInt8.ofNat_toNat]
      · exact absurd h (by simp only [Prod.mk.injEq, reduceCtorEq, false_and, not_false_eq_true])

/-- A number outside the surrogates is the code of its character. -/
theorem toNat_val_ofNat {v : Nat} (h : v < 0xD800 ∨ 0xDFFF < v ∧ v < 0x110000) :
    (Char.ofNat v).val.toNat = v := by
  rw [Char.ofNat, dif_pos h]
  rfl

/-- The bits of a character, taken apart in the way they were put together. -/
theorem encodeChar_two {x y : Nat} (h2 : 2 ≤ x) (hx : x < 32) (hy : y < 64) :
    String.utf8EncodeChar (Char.ofNat (x * 64 + y)) =
      [UInt8.ofNat (x + 0xC0), UInt8.ofNat (y + 0x80)] := by
  unfold String.utf8EncodeChar
  simp only [@toNat_val_ofNat (x * 64 + y) (by omega)]
  rw [if_neg (by omega), if_pos (by omega), show (x * 64 + y) / 64 % 32 = x by omega,
    show (x * 64 + y) % 64 = y by omega]

/-- The bytes of a character that is written with three. -/
theorem encodeChar_three {x y z : Nat} (hx : x < 16) (hy : y < 64) (hz : z < 64)
    (h0 : x = 0 → 0x20 ≤ y) (hd : x = 0xD → y ≤ 0x1F) :
    String.utf8EncodeChar (Char.ofNat ((x * 64 + y) * 64 + z)) =
      [UInt8.ofNat (x + 0xE0), UInt8.ofNat (y + 0x80), UInt8.ofNat (z + 0x80)] := by
  unfold String.utf8EncodeChar
  simp only [@toNat_val_ofNat ((x * 64 + y) * 64 + z) (by omega)]
  rw [if_neg (by omega), if_neg (by omega), if_pos (by omega),
    show ((x * 64 + y) * 64 + z) / 4096 % 16 = x by omega,
    show ((x * 64 + y) * 64 + z) / 64 % 64 = y by omega,
    show ((x * 64 + y) * 64 + z) % 64 = z by omega]

/-- The bytes of a character that is written with four. -/
theorem encodeChar_four {x y z u : Nat} (hx : x ≤ 4) (hy : y < 64) (hz : z < 64) (hu : u < 64)
    (h0 : x = 0 → 0x10 ≤ y) (h4 : x = 4 → y ≤ 0xF) :
    String.utf8EncodeChar (Char.ofNat (((x * 64 + y) * 64 + z) * 64 + u)) =
      [UInt8.ofNat (x + 0xF0), UInt8.ofNat (y + 0x80), UInt8.ofNat (z + 0x80),
        UInt8.ofNat (u + 0x80)] := by
  unfold String.utf8EncodeChar
  simp only [@toNat_val_ofNat (((x * 64 + y) * 64 + z) * 64 + u) (by omega)]
  rw [if_neg (by omega), if_neg (by omega), if_neg (by omega),
    show (((x * 64 + y) * 64 + z) * 64 + u) / 262144 % 8 = x by omega,
    show (((x * 64 + y) * 64 + z) * 64 + u) / 4096 % 64 = y by omega,
    show (((x * 64 + y) * 64 + z) * 64 + u) / 64 % 64 = z by omega,
    show (((x * 64 + y) * 64 + z) * 64 + u) % 64 = u by omega]

/-- Behind the last byte the bits are the character. -/
theorem eq_ofNat_of_tail {bits low high : Nat} {bytes rest : List UInt8} {c : Char}
    (h : tail bits 0 low high bytes = (some c, rest)) : c = Char.ofNat bits ∧ bytes = rest := by
  rw [tail, Prod.mk.injEq, Option.some.injEq] at h
  exact ⟨h.1.symm, h.2⟩

/-- A character that is read is written as the bytes it was read from. -/
theorem encodeChar_of_step {b : UInt8} {bytes rest : List UInt8} {c : Char}
    (h : step b bytes = (some c, rest)) : String.utf8EncodeChar c ++ rest = b :: bytes := by
  rcases hlead : lead? b with _ | ⟨bits, tails, low, high⟩
  · rw [step, hlead, Prod.mk.injEq] at h
    exact absurd h.1 (by simp only [reduceCtorEq, not_false_eq_true])
  rw [step_of_lead hlead] at h
  have hbyte : ∀ {x m : Nat}, b.toNat = x + m → b = UInt8.ofNat (x + m) := by
    intro x m hx
    rw [← hx, UInt8.ofNat_toNat]
  -- The four lengths of a character, by its first byte.
  rcases lead?_cases hlead with ⟨hb, hl⟩ | ⟨x, h2, hx, hb, hl⟩ |
    ⟨x, l, m, hx, hb, hl, hlow, hhigh, h0, hd⟩ | ⟨x, l, m, hx, hb, hl, hlow, hhigh, h0, h4⟩ <;>
    rw [Lead.mk.injEq] at hl <;> rcases hl with ⟨rfl, rfl, rfl, rfl⟩
  · rcases eq_ofNat_of_tail h with ⟨rfl, rfl⟩
    have hval := @toNat_val_ofNat b.toNat (by omega)
    rw [encodeChar_of_lt (by omega), hval, UInt8.ofNat_toNat, List.singleton_append]
  · rcases exists_of_tail (by omega) (by omega) h with ⟨y, bytes, rfl, hy, -, -, h⟩
    rcases eq_ofNat_of_tail h with ⟨rfl, rfl⟩
    rw [encodeChar_two h2 hx hy, ← hbyte hb]
    rfl
  · rcases exists_of_tail hlow hhigh h with ⟨y, bytes, rfl, hy, hyl, hyh, h⟩
    rcases exists_of_tail (by omega) (by omega) h with ⟨z, bytes, rfl, hz, -, -, h⟩
    rcases eq_ofNat_of_tail h with ⟨rfl, rfl⟩
    rw [encodeChar_three hx hy hz (by omega) (by omega), ← hbyte hb]
    rfl
  · rcases exists_of_tail hlow hhigh h with ⟨y, bytes, rfl, hy, hyl, hyh, h⟩
    rcases exists_of_tail (by omega) (by omega) h with ⟨z, bytes, rfl, hz, -, -, h⟩
    rcases exists_of_tail (by omega) (by omega) h with ⟨u, bytes, rfl, hu, -, -, h⟩
    rcases eq_ofNat_of_tail h with ⟨rfl, rfl⟩
    rw [encodeChar_four hx hy hz hu (by omega) (by omega), ← hbyte hb]
    rfl

/-- What was cut before is only put in front. -/
theorem cutOnto_eq_append (bytes : List UInt8) : ∀ before,
    cutOnto before bytes = before.reverse ++ cut bytes := by
  -- Strong induction, since a step may leave any shorter list of bytes.
  induction hlength : bytes.length using Nat.strongRecOn generalizing bytes with
  | _ length ih =>
      intro before
      cases bytes with
      | nil => rw [cut, cutOnto, cutOnto, List.reverse_nil, List.append_nil]
      | cons b bytes =>
          have hlt : (step b bytes).2.length < length := by
            rw [← hlength, List.length_cons]
            exact Nat.lt_succ_of_le (length_step b bytes)
          rw [cut, cutOnto, cutOnto, ih _ hlt _ rfl, ih _ hlt _ rfl]
          simp only [List.reverse_cons, List.reverse_nil, List.nil_append, List.append_assoc]

/-- The first step takes as many bytes as it needs, and the rest is cut by
    itself. -/
theorem cut_cons (b : UInt8) (bytes : List UInt8) :
    cut (b :: bytes) = (step b bytes).1 :: cut (step b bytes).2 := by
  rw [cut, cutOnto, cutOnto_eq_append, List.reverse_singleton, List.singleton_append]

/-- Bytes that are cut into characters are the encoding of these. -/
theorem encode_of_cut {cs : List Char} {bytes : List UInt8} (h : cut bytes = cs.map some) :
    encode cs = bytes := by
  induction cs generalizing bytes with
  | nil =>
      cases bytes with
      | nil => rfl
      | cons b bytes => exact absurd h (by rw [cut_cons]; exact List.cons_ne_nil _ _)
  | cons c cs ih =>
      cases bytes with
      | nil => exact absurd h (by rw [cut, cutOnto]; exact (List.cons_ne_nil _ _).symm)
      | cons b bytes =>
          rw [cut_cons, List.map_cons, List.cons.injEq] at h
          rw [encode_cons, ih h.2]
          exact encodeChar_of_step (Prod.ext h.1 rfl)

/-- Where all steps find a character, these are the characters. -/
theorem eq_map_some_of_mapM {l : List (Option Char)} {cs : List Char} (h : l.mapM id = some cs) :
    l = cs.map some := by
  induction l generalizing cs with
  | nil =>
      rw [List.mapM_nil] at h
      rw [← Option.some.inj h, List.map_nil]
  | cons c l ih =>
      rw [List.mapM_cons, Option.bind_eq_bind, Option.bind_eq_some_iff] at h
      rcases h with ⟨d, hd, h⟩
      rw [Option.bind_eq_bind, Option.bind_eq_some_iff] at h
      rcases h with ⟨ds, hds, h⟩
      rw [← Option.some.inj h, List.map_cons, ← ih hds, ← hd, id_eq]

/-- Bytes are read as a text exactly when they are its bytes. -/
theorem decode?_eq_some_iff {bytes : List UInt8} {cs : List Char} :
    decode? bytes = some cs ↔ encode cs = bytes := by
  constructor
  · exact fun h => encode_of_cut (eq_map_some_of_mapM h)
  · rintro rfl
    exact decode?_encode cs

end Utf8

end Worksheet
