import Worksheet.File.Directory
import Worksheet.Proofs.File.Path

/-!
# Creating and Reading Files

A file that was created can be read, and the others are what they were.

What keeps a path from naming a file depends on the path and on the folders,
and creating a file changes no folder. So a path that a file could be created
under is a path the file can be read under, and the bytes are those it was
created with. Whether a file can be created does not depend on its bytes.

Files are kept by the shortest spellings of their paths, which tell paths
apart. So all paths but those that are alike lead to what they led to.

## Main definitions

* `Directory.CanCreate`: A file can be created under a path.
* `Directory.SameBut`: Two directories that differ in one file at most.

## Theorems

* `rejection?_insert`: Files do not keep a path from naming one.
* `create_eq_ok_iff`: When a file is created, and what is there afterwards.
* `read_of_create`: A created file is read.
* `sameBut_of_create`: The other files are not touched.
-/

namespace Worksheet

namespace Directory

/-- A file can be created under the path, or replaced. -/
def CanCreate (d : Directory) (path : String) : Prop :=
  d.rejection? path = none ∧ (Path.ofString path).folder ∈ d.folders ∧
    (Path.ofString path).fileName?.isSome = true ∧ Path.asksForFolder path = false

/-- All that can be seen is the same, except for what the path and those that
    are alike lead to. -/
def SameBut (path : String) (d d' : Directory) : Prop :=
  d'.folders = d.folders ∧
    ∀ other, Path.ofString other ≠ Path.ofString path → d'.content? other = d.content? other

variable {d d' : Directory} {path : String} {bytes : List UInt8}

theorem rejection?_insert (d : Directory) (files : Std.ExtTreeMap String (List UInt8))
    (path : String) : rejection? { d with files := files } path = d.rejection? path :=
  rfl

/-- A file is created when its path allows it, and then it is there. -/
theorem create_eq_ok_iff : d.create path bytes = .ok d' ↔ d.CanCreate path ∧
    { d with files := d.files.insert (Path.ofString path).toString bytes } = d' := by
  rw [create, CanCreate]
  -- The tests in the order in which they are made; the last dot comes before the slash.
  rcases hrejection : d.rejection? path with _ | e
  · by_cases hplace : (Path.ofString path).folder ∈ d.folders ∧
        (Path.ofString path).fileName?.isSome = true
    · by_cases hdot : Path.endsInDot path = true
      · have hfolder : Path.asksForFolder path = true := Bool.or_eq_true_iff.mpr (.inr hdot)
        simp only [if_pos hplace, if_pos hdot, hfolder, Bool.true_eq_false, reduceCtorEq, and_false,
          false_and]
      · by_cases hslash : Path.endsInSlash path = true
        · have hfolder : Path.asksForFolder path = true := Bool.or_eq_true_iff.mpr (.inl hslash)
          simp only [if_pos hplace, if_neg hdot, if_pos hslash, hfolder, Bool.true_eq_false,
            reduceCtorEq, and_false, false_and]
        · rw [Bool.not_eq_true] at hdot hslash
          have hfolder : Path.asksForFolder path = false := Bool.or_eq_false_iff.mpr ⟨hslash, hdot⟩
          simp only [if_pos hplace, hdot, hslash, Bool.false_eq_true, if_false, Except.ok.injEq]
          exact (and_iff_right ⟨trivial, hplace.1, hplace.2, hfolder⟩).symm
    · simp only [if_neg hplace, reduceCtorEq, false_iff]
      exact fun h => hplace ⟨h.1.2.1, h.1.2.2.1⟩
  · simp only [reduceCtorEq, false_and]

/-- A file that was created is read with its bytes, and its path ends in a
    name. -/
theorem read_of_create (h : d.create path bytes = .ok d') :
    d'.read path = .ok bytes ∧ (Path.ofString path).fileName?.isSome = true := by
  rcases create_eq_ok_iff.mp h with ⟨⟨hrejection, -, hname, hfolder⟩, rfl⟩
  refine ⟨?_, hname⟩
  -- The folders are the same, so nothing keeps the path from naming the new file.
  have hcontent : content?
      { d with files := d.files.insert (Path.ofString path).toString bytes } path = some bytes := by
    rw [content?, Std.ExtTreeMap.getElem?_insert_self]
  rw [read, rejection?_insert, hrejection, hcontent]
  exact if_neg (Bool.eq_false_iff.mp hfolder)

theorem sameBut_refl (path : String) (d : Directory) : SameBut path d d :=
  ⟨rfl, fun _ _ => rfl⟩

/-- Creating a file touches no other. -/
theorem sameBut_of_create (h : d.create path bytes = .ok d') : SameBut path d d' := by
  rcases create_eq_ok_iff.mp h with ⟨-, rfl⟩
  refine ⟨rfl, fun other hother => ?_⟩
  have hkey : (Path.ofString path).toString ≠ (Path.ofString other).toString :=
    fun heq => hother (Path.toString_inj.mp heq).symm
  rw [content?, content?, Std.ExtTreeMap.getElem?_insert,
    if_neg fun heq => hkey (Std.compare_eq_iff_eq.mp heq)]

end Directory

end Worksheet
