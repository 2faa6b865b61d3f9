import Mathlib.Data.List.DropRight
import Mathlib.Data.List.Induction
import Worksheet.Proofs.Text.Blank

/-!
# The Case of Letters

Texts that differ in the case of letters.

Writing a text in capitals changes the small letters and nothing else, so
whatever tells no small letter from its capital tells no character from what
it becomes. That is checked for the twenty-six small letters, and it is what
is asked of a class of characters for cutting and trimming to go on in the
same places when a text is written in capitals.

Letters have another case and other characters do not. Two texts that differ
in the case of some letters are the same in capitals, so a reader that commutes
with writing in capitals reads them alike.

## Main definitions

* `smallLetters`: The letters that have a capital.
* `capitals`: A text in capitals.
* `otherCase`: A letter in its other case.
* `recase`: A text with some of its letters in their other case.
* `IgnoresCase`: A function of characters is the same for a letter and its
  capital.

## Theorems

* `toUpper_eq_self_or_mem`: Only small letters have a capital.
* `ignoresCase_of_smallLetters`: It suffices to look at the small letters.
* `takeWhile_capitals`, `dropWhile_capitals`, `trim_capitals`: Cutting and
  trimming.
* `capitals_recase`: Another case does not show in capitals.
-/

namespace Worksheet

namespace Text

/-- The letters that have a capital. -/
def smallLetters : List Char :=
  "abcdefghijklmnopqrstuvwxyz".toList

/-- A text in capitals. -/
def capitals (cs : List Char) : List Char :=
  cs.map Char.toUpper

/-- A letter in its other case; other characters have none. -/
def otherCase (c : Char) : Char :=
  if c.isUpper then c.toLower else c.toUpper

/-- A text with the letters at some places in their other case. -/
def recase (flipped : Nat → Bool) (cs : List Char) : List Char :=
  cs.mapIdx fun i c => if flipped i then otherCase c else c

/-- A function of characters is the same for a letter and its capital. -/
def IgnoresCase {α : Type} (f : Char → α) : Prop :=
  ∀ c, f c.toUpper = f c

/-- Only the small letters of ASCII are changed by making a character a
    capital. -/
theorem toUpper_eq_self_or_mem (c : Char) : c.toUpper = c ∨ c ∈ smallLetters := by
  by_cases hlower : 97 ≤ c.val ∧ c.val ≤ 122
  · rw [UInt32.le_iff_toNat_le, UInt32.le_iff_toNat_le] at hlower
    have hall : ∀ n < 123, 97 ≤ n → Char.ofNat n ∈ smallLetters := by decide
    have hmem := hall c.toNat (Nat.lt_succ_of_le hlower.2) hlower.1
    rw [Char.ofNat_toNat] at hmem
    exact .inr hmem
  · exact .inl (dif_neg hlower)

/-- What tells no small letter from its capital ignores the case of all
    characters. -/
theorem ignoresCase_of_smallLetters {α : Type} {f : Char → α}
    (h : ∀ c ∈ smallLetters, f c.toUpper = f c) : IgnoresCase f := by
  intro c
  rcases toUpper_eq_self_or_mem c with hself | hmem
  · rw [hself]
  · exact h c hmem

/-- To ignore the case it is enough to treat each small letter like its
    capital. -/
theorem ignoresCase_of_all {α : Type} [DecidableEq α] {f : Char → α}
    (h : smallLetters.all (fun c => f c.toUpper == f c) = true) : IgnoresCase f := by
  refine ignoresCase_of_smallLetters fun c hc => ?_
  exact eq_of_beq (List.all_eq_true.mp h c hc)

theorem ignoresCase_toUpper : IgnoresCase Char.toUpper :=
  ignoresCase_of_all (by decide)

theorem ignoresCase_isAlpha : IgnoresCase Char.isAlpha :=
  ignoresCase_of_all (by decide)

theorem ignoresCase_isDigit : IgnoresCase Char.isDigit :=
  ignoresCase_of_all (by decide)

theorem ignoresCase_isBlank : IgnoresCase isBlank :=
  ignoresCase_of_all (by decide)

theorem ignoresCase_isLineBreak : IgnoresCase isLineBreak :=
  ignoresCase_of_all (by decide)

/-- A character that is no letter is told from all others in either case. -/
theorem toUpper_eq_iff {c d : Char} (hd : d.isAlpha = false) : c.toUpper = d ↔ c = d := by
  rcases toUpper_eq_self_or_mem c with hself | hmem
  · rw [hself]
  · have hsmall : smallLetters.all Char.isAlpha = true := by decide
    have hc := List.all_eq_true.mp hsmall c hmem
    refine iff_of_false ?_ ?_
    · rintro rfl
      rw [ignoresCase_isAlpha, hc] at hd
      exact absurd hd Bool.noConfusion
    · rintro rfl
      rw [hc] at hd
      exact absurd hd Bool.noConfusion

/-- Digits have no case. -/
theorem capitals_of_isDigit {cs : List Char} (h : ∀ c ∈ cs, c.isDigit = true) :
    capitals cs = cs := by
  refine (List.map_congr_left fun c hc => ?_).trans (List.map_id cs)
  exact (toUpper_eq_iff (isAlpha_eq_false_of_isDigit (h c hc))).mpr rfl

@[simp]
theorem capitals_cons (c : Char) (cs : List Char) :
    capitals (c :: cs) = c.toUpper :: capitals cs := rfl

@[simp]
theorem isEmpty_capitals (cs : List Char) : (capitals cs).isEmpty = cs.isEmpty := by
  cases cs <;> rfl

/-- Capitals can be made before or after a text is turned around. -/
theorem capitals_reverse (cs : List Char) : capitals cs.reverse = (capitals cs).reverse :=
  List.map_reverse

theorem capitals_eq_nil_iff {cs : List Char} : capitals cs = [] ↔ cs = [] :=
  List.map_eq_nil_iff

/-- A character that is no letter begins a text in capitals exactly when it
    begins the text. -/
theorem head?_capitals_eq_some_iff {c : Char} (hc : c.isAlpha = false) {cs : List Char} :
    (capitals cs).head? = some c ↔ cs.head? = some c := by
  rw [capitals, List.head?_map]
  simp only [Option.map_eq_some_iff, toUpper_eq_iff hc, exists_eq_right]

/-- A character that is no letter ends the capitals of a text exactly when it
    ends the text. -/
theorem getLast?_capitals_eq_some_iff {c : Char} (hc : c.isAlpha = false) {cs : List Char} :
    (capitals cs).getLast? = some c ↔ cs.getLast? = some c := by
  rw [capitals, List.getLast?_map]
  simp only [Option.map_eq_some_iff, toUpper_eq_iff hc, exists_eq_right]

/-- What ignores the case finds the same in capitals. -/
theorem map_capitals {α : Type} {f : Char → α} (hf : IgnoresCase f) (cs : List Char) :
    (capitals cs).map f = cs.map f := by
  rw [capitals, List.map_map]
  exact List.map_congr_left fun c _ => hf c

theorem capitals_capitals (cs : List Char) : capitals (capitals cs) = capitals cs :=
  map_capitals ignoresCase_toUpper cs

/-- A character that is no letter stands in a text exactly when it stands in its
    capitals. -/
theorem mem_capitals_iff {c : Char} (hc : c.isAlpha = false) {cs : List Char} :
    c ∈ capitals cs ↔ c ∈ cs := by
  simp only [capitals, List.mem_map, toUpper_eq_iff hc, exists_eq_right]

section Class

variable {p : Char → Bool} (hp : IgnoresCase p) (cs : List Char)
include hp

/-- A class that ignores the case cuts a text and its capitals at the same
    place. -/
theorem takeWhile_capitals : (capitals cs).takeWhile p = capitals (cs.takeWhile p) := by
  have hcomp : p ∘ Char.toUpper = p := funext hp
  rw [capitals, List.takeWhile_map, hcomp, capitals]

theorem dropWhile_capitals : (capitals cs).dropWhile p = capitals (cs.dropWhile p) := by
  have hcomp : p ∘ Char.toUpper = p := funext hp
  rw [capitals, List.dropWhile_map, hcomp, capitals]

/-- What such a class keeps of the capitals are the capitals of what it
    keeps. -/
theorem filter_capitals : (capitals cs).filter p = capitals (cs.filter p) := by
  have hcomp : p ∘ Char.toUpper = p := funext hp
  rw [capitals, List.filter_map, hcomp, capitals]

/-- Such a class is met in the capitals when it is met in the text. -/
theorem any_capitals : (capitals cs).any p = cs.any p := by
  have hcomp : p ∘ Char.toUpper = p := funext hp
  rw [capitals, List.any_map, hcomp]

theorem all_capitals : (capitals cs).all p = cs.all p := by
  have hcomp : p ∘ Char.toUpper = p := funext hp
  rw [capitals, List.all_map, hcomp]

theorem trimLeft_capitals : trimLeft p (capitals cs) = capitals (trimLeft p cs) :=
  dropWhile_capitals hp cs

/-- What is trimmed is the same in capitals. -/
theorem trim_capitals : trim p (capitals cs) = capitals (trim p cs) := by
  rw [trim, trimRight, trimLeft_capitals hp, ← capitals_reverse, dropWhile_capitals hp,
    ← capitals_reverse, trim, trimRight]

end Class

/-- A letter and the same one in the other case have one capital. -/
theorem toUpper_otherCase (c : Char) : (otherCase c).toUpper = c.toUpper := by
  by_cases hupper : c.isUpper = true
  · rw [otherCase, if_pos hupper]
    have hbounds : 65 ≤ c.toNat ∧ c.toNat ≤ 90 := by
      have hval : c.isUpper = decide (c.val ≥ 'A'.val ∧ c.val ≤ 'Z'.val) := rfl
      rw [hval, decide_eq_true_eq, ge_iff_le, UInt32.le_iff_toNat_le, UInt32.le_iff_toNat_le]
        at hupper
      exact hupper
    have hall : ∀ n < 91, 65 ≤ n →
        (Char.ofNat n).toLower.toUpper = (Char.ofNat n).toUpper := by decide
    have hcase := hall c.toNat (Nat.lt_succ_of_le hbounds.2) hbounds.1
    rwa [Char.ofNat_toNat] at hcase
  · rw [otherCase, if_neg hupper]
    exact ignoresCase_toUpper c

/-- Another case does not show in capitals. -/
theorem capitals_recase (flipped : Nat → Bool) (cs : List Char) :
    capitals (recase flipped cs) = capitals cs := by
  refine List.ext_getElem (by simp only [capitals, recase, List.length_map, List.length_mapIdx])
    fun i hi hi' => ?_
  simp only [capitals, recase, List.getElem_map, List.getElem_mapIdx]
  cases flipped i with
  | true => exact toUpper_otherCase _
  | false => rfl

end Text

end Worksheet
