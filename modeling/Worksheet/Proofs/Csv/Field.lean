import Worksheet.Csv.Reader
import Worksheet.Proofs.Attempt
import Worksheet.Proofs.Text.Blank
import Worksheet.Proofs.Text.Decoding

/-!
# Fields as Texts

Which fields are texts, and which texts they are.

A field is turned into text as it is, or without the white space at its ends.
Trimming is done twice then, once on the bytes and once on the characters. The
white bytes are all in ASCII, so trimming the bytes of a text leaves the bytes
of a trimmed text, and what is trimmed off are bytes that cannot make a text
of something that is none. So a field is a text whether or not it is trimmed,
and trimming is that of its characters.

## Main definitions

* `FieldText`: The text of a field.
* `isWhiteAscii`: The characters of the white bytes.

## Theorems

* `trimBytes_encode`: Trimming the bytes of a text is trimming the text.
* `fieldText_eq_ok_iff`, `fieldText_eq_error_iff`: A field is turned into its
  text exactly when its bytes are a text.
* `recordTexts_eq_ok_iff`: A record is turned into the texts of its fields.
-/

namespace Worksheet

namespace Csv

/-- The bytes of a field are a text, and this is what is made of it. -/
def FieldText (trim : Bool) (bytes : List UInt8) (t : String) : Prop :=
  ∃ cs, Utf8.encode cs = bytes ∧ t = String.ofList (if trim then Text.trim Text.isWhite cs else cs)

/-- The character is written as a white byte. -/
def isWhiteAscii (c : Char) : Bool :=
  c == '\t' || c == '\n' || c == '\x0c' || c == '\r' || c == ' '

/-- The five characters of ASCII that are taken off as bytes. -/
theorem isWhiteAscii_iff {c : Char} : isWhiteAscii c = true ↔
    c = '\t' ∨ c = '\n' ∨ c = '\x0c' ∨ c = '\r' ∨ c = ' ' := by
  simp only [isWhiteAscii, Bool.or_eq_true, beq_iff_eq, or_assoc]

theorem isWhiteByte_iff {b : UInt8} : isWhiteByte b = true ↔
    b.toNat = 9 ∨ b.toNat = 10 ∨ b.toNat = 12 ∨ b.toNat = 13 ∨ b.toNat = 32 := by
  simp only [isWhiteByte, Bool.or_eq_true, beq_iff_eq, ← UInt8.toNat_inj, or_assoc]
  exact Iff.rfl

/-- Each of these characters is white space. -/
theorem isWhite_of_isWhiteAscii {c : Char} (h : isWhiteAscii c = true) : Text.isWhite c = true := by
  rw [isWhiteAscii_iff] at h
  rcases h with rfl | rfl | rfl | rfl | rfl <;> decide

/-- Each of them is written as one white byte. -/
theorem encodeChar_of_isWhiteAscii {c : Char} (h : isWhiteAscii c = true) :
    ∃ b, String.utf8EncodeChar c = [b] ∧ isWhiteByte b = true := by
  rw [isWhiteAscii_iff] at h
  rcases h with rfl | rfl | rfl | rfl | rfl <;> exact ⟨_, rfl, by decide⟩

/-- No other character is written with a white byte. -/
theorem isWhiteByte_of_mem_encodeChar {c : Char} (h : isWhiteAscii c = false) {b : UInt8}
    (hb : b ∈ String.utf8EncodeChar c) : isWhiteByte b = false := by
  rw [Bool.eq_false_iff, ne_eq, isWhiteByte_iff]
  by_cases hascii : c.val.toNat < 128
  · rw [Utf8.encodeChar_of_lt hascii, List.mem_singleton] at hb
    rw [Bool.eq_false_iff, ne_eq, isWhiteAscii_iff] at h
    rw [hb, Utf8.toNat_ofNat_of_lt (by omega)]
    simp only [Char.ext_iff, ← UInt32.toNat_inj] at h
    exact h
  · have hle := Utf8.le_of_mem_encodeChar (Nat.le_of_not_lt hascii) hb
    omega

/-- White bytes in front of a text are its white characters. -/
theorem dropWhile_encode (cs : List Char) :
    (Utf8.encode cs).dropWhile isWhiteByte = Utf8.encode (cs.dropWhile isWhiteAscii) := by
  induction cs with
  | nil => rfl
  | cons c cs ih =>
      rw [Utf8.encode_cons]
      by_cases hwhite : isWhiteAscii c = true
      · rcases encodeChar_of_isWhiteAscii hwhite with ⟨b, hbytes, hb⟩
        rw [hbytes, List.singleton_append, List.dropWhile_cons_of_pos hb,
          List.dropWhile_cons_of_pos hwhite, ih]
      · rcases Utf8.step_encodeChar c with ⟨b, bs, hbytes, -⟩
        have hb : isWhiteByte b = false := isWhiteByte_of_mem_encodeChar
          (Bool.eq_false_iff.mpr hwhite) (hbytes ▸ List.mem_cons_self)
        rw [List.dropWhile_cons_of_neg hwhite, Utf8.encode_cons, hbytes, List.cons_append,
          List.dropWhile_cons_of_neg (by rw [hb]; exact Bool.false_ne_true)]

/-- Trimming the bytes from the right is trimming the characters from the right,
    where the last byte of a character comes first. -/
theorem rdropWhile_encode (cs : List Char) :
    (Utf8.encode cs).rdropWhile isWhiteByte = Utf8.encode (cs.rdropWhile isWhiteAscii) := by
  induction cs using List.reverseRecOn with
  | nil => rfl
  | append_singleton cs c ih =>
      have hsingle : Utf8.encode [c] = String.utf8EncodeChar c := List.flatMap_singleton _ _
      rw [Utf8.encode_append, hsingle]
      by_cases hwhite : isWhiteAscii c = true
      · rcases encodeChar_of_isWhiteAscii hwhite with ⟨b, hbytes, hb⟩
        rw [hbytes, List.rdropWhile_concat_pos _ _ _ hb, List.rdropWhile_concat_pos _ _ _ hwhite,
          ih]
      · -- The last byte of a character that is not white is not white either.
        have hne : String.utf8EncodeChar c ≠ [] := by
          rcases Utf8.step_encodeChar c with ⟨b, bs, hbytes, -⟩
          rw [hbytes]
          exact List.cons_ne_nil b bs
        rcases List.eq_nil_or_concat (String.utf8EncodeChar c) with hnil | ⟨bs, b, hbytes⟩
        · exact absurd hnil hne
        · rw [List.concat_eq_append] at hbytes
          have hb : isWhiteByte b = false := isWhiteByte_of_mem_encodeChar
            (Bool.eq_false_iff.mpr hwhite) (by rw [hbytes]; exact List.mem_concat_self)
          rw [List.rdropWhile_concat_neg _ _ _ hwhite, Utf8.encode_append, hsingle, hbytes,
            ← List.append_assoc,
            List.rdropWhile_concat_neg _ _ _ (by rw [hb]; exact Bool.false_ne_true)]

/-- Trimming the bytes of a text is trimming the text. -/
theorem trimBytes_encode (cs : List Char) :
    trimBytes (Utf8.encode cs) = Utf8.encode (Text.trim isWhiteAscii cs) := by
  have hright : trimBytes (Utf8.encode cs) =
      ((Utf8.encode cs).dropWhile isWhiteByte).rdropWhile isWhiteByte := rfl
  rw [hright, dropWhile_encode, rdropWhile_encode]
  rfl

/-- What is trimmed off are bytes of ASCII, and they are texts. -/
theorem isText_trimBytes_iff {bytes : List UInt8} :
    Utf8.IsText (trimBytes bytes) ↔ Utf8.IsText bytes := by
  constructor
  · intro h
    -- White bytes are characters by themselves, so a text stays one with them around it.
    have hwhite : ∀ bs : List UInt8, (∀ b ∈ bs, isWhiteByte b = true) → Utf8.IsText bs := by
      intro bs hbs
      rw [← List.flatMap_singleton' bs]
      refine Utf8.isText_flatMap bs fun b hb => Utf8.isText_singleton ?_
      have := isWhiteByte_iff.mp (hbs b hb)
      omega
    have hsplit : bytes = bytes.takeWhile isWhiteByte ++ (trimBytes bytes ++
        (bytes.dropWhile isWhiteByte).rtakeWhile isWhiteByte) := by
      have hright : trimBytes bytes = (bytes.dropWhile isWhiteByte).rdropWhile isWhiteByte := rfl
      rw [hright, List.rdropWhile_append_rtakeWhile, List.takeWhile_append_dropWhile]
    rw [hsplit]
    exact (hwhite _ fun b hb => List.mem_takeWhile_imp hb).append
      (h.append (hwhite _ fun b hb => List.mem_rtakeWhile_imp hb))
  · rintro ⟨cs, rfl⟩
    rw [trimBytes_encode]
    exact Utf8.isText_encode _

/-- Taking off white bytes does not make a text of anything else. -/
theorem isText_fieldBytes_iff {trim : Bool} {bytes : List UInt8} :
    Utf8.IsText (fieldBytes trim bytes) ↔ Utf8.IsText bytes := by
  cases trim with
  | false => exact Iff.rfl
  | true => exact isText_trimBytes_iff

/-- The bytes of some characters are read as these characters. -/
theorem fieldText_encode (trim : Bool) (cs : List Char) : fieldText trim (Utf8.encode cs) =
    .ok (String.ofList (if trim then Text.trim Text.isWhite cs else cs)) := by
  cases trim with
  | false =>
      rw [fieldText, fieldBytes, if_neg Bool.false_ne_true]
      simp only [Utf8.decode?_encode, if_neg Bool.false_ne_true]
  | true =>
      rw [fieldText, fieldBytes, if_pos rfl, trimBytes_encode]
      simp only [Utf8.decode?_encode, if_true]
      rw [Text.trim_trim fun c => isWhite_of_isWhiteAscii]

/-- A field is turned into a text exactly when that is the text of it. -/
theorem fieldText_eq_ok_iff {trim : Bool} {bytes : List UInt8} {t : String} :
    fieldText trim bytes = .ok t ↔ FieldText trim bytes t := by
  by_cases htext : Utf8.IsText bytes
  · rcases htext with ⟨cs, rfl⟩
    rw [fieldText_encode, Except.ok.injEq]
    constructor
    · exact fun h => ⟨cs, rfl, h.symm⟩
    · rintro ⟨ds, hds, rfl⟩
      have hsame : some ds = some cs := by
        rw [← Utf8.decode?_encode ds, hds, Utf8.decode?_encode]
      rw [Option.some.inj hsame]
  · have hnone : Utf8.decode? (fieldBytes trim bytes) = none := by
      rw [Option.eq_none_iff_forall_ne_some]
      exact fun cs hcs => htext (isText_fieldBytes_iff.mp ⟨cs, Utf8.decode?_eq_some_iff.mp hcs⟩)
    rw [fieldText, hnone]
    constructor
    · exact fun h => absurd h (by simp only [reduceCtorEq, not_false_eq_true])
    · rintro ⟨cs, hcs, -⟩
      exact absurd ⟨cs, hcs⟩ htext

/-- A field that is no text is reported with the length of what is text in
    front. -/
theorem fieldText_eq_error_iff {trim : Bool} {bytes : List UInt8} {n : Nat} :
    fieldText trim bytes = .error n ↔
      ¬ Utf8.IsText bytes ∧ n = Utf8.validLength (fieldBytes trim bytes) := by
  rw [← @isText_fieldBytes_iff trim, fieldText]
  rcases h : Utf8.decode? (fieldBytes trim bytes) with _ | cs
  · have htext : ¬ Utf8.IsText (fieldBytes trim bytes) := by
      rintro ⟨cs, hcs⟩
      rw [Utf8.decode?_eq_some_iff.mpr hcs] at h
      exact absurd h (by simp only [reduceCtorEq, not_false_eq_true])
    simp only [Except.error.injEq]
    exact ⟨fun hn => ⟨htext, hn.symm⟩, fun hn => hn.2.symm⟩
  · simp only [reduceCtorEq, false_iff, not_and]
    exact fun htext => absurd ⟨cs, Utf8.decode?_eq_some_iff.mp h⟩ htext

/-- A field is read when its bytes are a text. -/
theorem exists_fieldText_iff {trim : Bool} {bytes : List UInt8} :
    (∃ t, FieldText trim bytes t) ↔ Utf8.IsText bytes :=
  ⟨fun ⟨_, cs, hcs, _⟩ => ⟨cs, hcs⟩, fun ⟨cs, hcs⟩ => ⟨_, cs, hcs, rfl⟩⟩

/-- A record is turned into the texts of its fields. -/
theorem recordTexts_eq_ok_iff {trim : Bool} {record : Nat} {r : Record} {texts : List String} :
    recordTexts trim record r = .ok texts ↔ List.Forall₂ (FieldText trim) r.fields texts := by
  simp only [recordTexts, Attempt.mapM_eq_ok_iff, Attempt.mapError_eq_ok_iff, fieldText_eq_ok_iff]
  rw [← @List.forall₂_map_left_iff _ _ _ (FieldText trim) Prod.fst, List.zipIdx_map_fst]

end Csv

end Worksheet
