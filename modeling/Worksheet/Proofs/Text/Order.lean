import Mathlib.Data.String.Basic
import Worksheet.Proofs.Text.Utf8

/-!
# The Order of Bytes

That texts are in the order of their bytes.

Texts are compared by their characters, and their bytes are compared as bytes.
The two orders are the same, because a character with a larger code point has
larger bytes: more of them are announced by a larger first byte, and as many
of them hold its bits from the left to the right. So the first character in
which two texts differ is also where their bytes differ first.

## Theorems

* `encodeChar_append_lt`: A smaller character has smaller bytes.
* `encode_lt_encode`: The bytes of a smaller text are smaller.
* `encode_toList_lt_iff`: Texts are in the order of their bytes.
-/

namespace Worksheet

namespace Utf8

/-- The bytes of a smaller character are smaller, whatever follows. -/
theorem encodeChar_append_lt {c d : Char} (h : c < d) (xs ys : List UInt8) :
    String.utf8EncodeChar c ++ xs < String.utf8EncodeChar d ++ ys := by
  have hlt : c.val.toNat < d.val.toNat := UInt32.lt_iff_toNat_lt.mp h
  have hvalid := toNat_val_lt d
  unfold String.utf8EncodeChar
  generalize c.val.toNat = v at hlt
  generalize d.val.toNat = w at hlt hvalid
  -- Each further byte takes six bits, and what is left for the first one fits there.
  have hdiv : ∀ n, n < 0x110000 →
      n / 4096 = n / 64 / 64 ∧ n / 262144 % 8 = n / 64 / 64 / 64 := by omega
  simp only [hdiv v (by omega), hdiv w (by omega)]
  -- One case for each pair of sizes, in which the bytes are compared from the left.
  split_ifs <;> simp (disch := omega) only [List.cons_append, List.nil_append,
    List.cons_lt_cons_iff, UInt8.lt_iff_toNat_lt, ← UInt8.toNat_inj, toNat_ofNat_of_lt] <;> omega

theorem encode_lt_encode {cs ds : List Char} (h : cs < ds) : encode cs < encode ds := by
  induction cs generalizing ds with
  | nil =>
      cases ds with
      | nil => exact absurd h (List.lt_irrefl _)
      | cons d ds =>
          rcases step_encodeChar d with ⟨b, bs, hbytes, -⟩
          rw [encode_cons, hbytes]
          exact List.nil_lt_cons _ _
  | cons c cs ih =>
      cases ds with
      | nil => exact absurd h (List.not_lt_nil _)
      | cons d ds =>
          rw [encode_cons, encode_cons]
          rcases List.cons_lt_cons_iff.mp h with hlt | ⟨rfl, hlt⟩
          · exact encodeChar_append_lt hlt _ _
          · exact List.append_left_lt (ih hlt)

/-- Texts are in the order of their bytes. -/
theorem encode_toList_lt_iff {t u : String} : encode t.toList < encode u.toList ↔ t < u := by
  have hmono : ∀ {t u : String}, t < u → encode t.toList < encode u.toList := fun h =>
    encode_lt_encode (String.lt_iff_toList_lt.mp h)
  constructor
  · intro h
    rcases lt_trichotomy t u with hlt | rfl | hgt
    · exact hlt
    · exact absurd h (List.lt_irrefl _)
    · exact absurd h (List.lt_asymm (hmono hgt))
  · exact hmono

end Utf8

end Worksheet
