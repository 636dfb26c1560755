/-
# ExportDocs.Proofs.FileTree.Moved -- a tree that is moved to another directory

Everything below one directory is put below another one (`moved`).  What a path below the first
directory led to, a file with its content, a directory or nothing, the same path below the second
one leads to afterwards (`holds?_moved`), so what could be read there is read here, and what was
found there is found here.
-/
import ExportDocs.FileTree
import Mathlib.Logic.Basic

namespace ExportDocs

set_option autoImplicit false

/-- What stands at a place, apart from where that is: a directory, a file, or nothing. -/
def Located.holds? : Located → Option (Option Content)
  | directory _ => some none
  | file _ content => some (some content)
  | _ => none

namespace FileTree

variable {tree : FileTree} {source target : List Text}

/-! ## What is seen of a path -/

theorem hasPath_eq (tree : FileTree) (path : Path) :
    tree.hasPath path = (isValid path && (tree.locate path).holds?.isSome) := by
  unfold hasPath
  cases tree.locate path <;> rfl

theorem read_eq_ok_iff {path : Path} {text : Text} :
    tree.read path = .ok text ↔ isValid path ∧ ∃ content,
      (tree.locate path).holds? = some (some content) ∧ content.read = .ok text := by
  unfold FileTree.read contentAt
  cases isValid path with
  | false => simp [bind, Except.bind]
  | true => cases tree.locate path <;> simp [Located.holds?, bind, Except.bind]

theorem isDirectory_iff {parts : List Text} :
    tree.isDirectory parts ↔ parts = [] ∨ (∃ directory ∈ tree.directories, parts <+: directory) ∨
      ∃ file ∈ tree.files, parts <+: file.1 ∧ parts ≠ file.1 := by
  simp [isDirectory, or_assoc]

/-! ## Trees below a directory -/

/-- There are files in the tree, and all of it lies below a directory. -/
structure LiesBelow (tree : FileTree) (place : List Text) : Prop where
  inhabited : tree.files ≠ []
  files : ∀ file ∈ tree.files, ∃ rest, rest ≠ [] ∧ file.1 = place ++ rest
  directories : ∀ directory ∈ tree.directories, ∃ rest, directory = place ++ rest

namespace LiesBelow

/-- Every directory on the way to the place of a tree exists, and is no file. -/
theorem isDirectory (below : tree.LiesBelow source) {start : List Text} (onWay : start <+: source) :
    tree.isDirectory start = true ∧ tree.files.lookup start = none := by
  obtain ⟨further, rfl⟩ := onWay
  constructor
  · obtain ⟨file, member⟩ := List.exists_mem_of_ne_nil _ below.inhabited
    obtain ⟨rest, nonempty, parts⟩ := below.files file member
    have inside : start <+: file.1 ∧ start ≠ file.1 := by
      rw [parts, List.append_assoc]
      exact ⟨List.prefix_append _ _, by simp [nonempty]⟩
    exact isDirectory_iff.2 (.inr (.inr ⟨file, member, inside⟩))
  · refine List.lookup_eq_none_iff.2 fun file member => ?_
    obtain ⟨rest, nonempty, parts⟩ := below.files file member
    have different : start ≠ file.1 := by
      rw [parts, List.append_assoc]
      simp [nonempty]
    simpa using different

/-- A path below the place of a tree is looked up from there. -/
theorem locateFrom (below : tree.LiesBelow source) (clean : Path.up ∉ source) (rest : List Text) :
    tree.locateFrom [] (source ++ rest) = tree.locateFrom source rest := by
  have further : ∀ todo done, done ++ todo = source →
      tree.locateFrom done (todo ++ rest) = tree.locateFrom source rest := by
    intro todo
    induction todo with
    | nil => simp
    | cons part todo ih =>
        intro done whole
        have onWay : done ++ [part] <+: source := ⟨todo, by simpa using whole⟩
        have notUp : part ≠ Path.up := fun same => clean (by simp [← whole, same])
        obtain ⟨directory, noFile⟩ := below.isDirectory onWay
        rw [List.cons_append, FileTree.locateFrom, if_neg notUp]
        simp only [noFile, directory, if_true]
        exact ih _ (by simpa using whole)
  exact further source [] rfl

/-- The place of a tree is a directory, so what is read lies below it. -/
theorem ne_nil_of_read (below : tree.LiesBelow source) (clean : Path.up ∉ source) {root : Root}
    (rooted : root ≠ .current) {rest : List Text} {text : Text}
    (read : tree.read { root, parts := source ++ rest } = .ok text) : rest ≠ [] := by
  rintro rfl
  obtain ⟨-, content, holds, -⟩ := read_eq_ok_iff.1 read
  rw [locate, if_neg rooted, below.locateFrom clean] at holds
  cases holds

end LiesBelow

/-! ## Moving a tree -/

/-- A place below one directory, seen from another one. -/
def shifted (source target place : List Text) : List Text := target ++ place.drop source.length

/-- The tree with everything below one directory put below another one. -/
def moved (tree : FileTree) (source target : List Text) : FileTree :=
  { tree with
    files := tree.files.map fun file => (shifted source target file.1, file.2)
    directories := tree.directories.map (shifted source target) }

@[simp] theorem shifted_append (source target rest : List Text) :
    shifted source target (source ++ rest) = target ++ rest := by
  simp [shifted]

theorem LiesBelow.moved (below : tree.LiesBelow source) (target : List Text) :
    (tree.moved source target).LiesBelow target where
  inhabited := by simpa [FileTree.moved] using below.inhabited
  files := by
    intro file member
    obtain ⟨before, inTree, rfl⟩ := List.mem_map.1 member
    obtain ⟨rest, nonempty, parts⟩ := below.files before inTree
    exact ⟨rest, nonempty, by rw [parts, shifted_append]⟩
  directories := by
    intro directory member
    obtain ⟨before, inTree, rfl⟩ := List.mem_map.1 member
    obtain ⟨rest, parts⟩ := below.directories before inTree
    exact ⟨rest, by rw [parts, shifted_append]⟩

theorem lookup_moved (below : tree.LiesBelow source) (target rest : List Text) :
    (tree.moved source target).files.lookup (target ++ rest) =
      tree.files.lookup (source ++ rest) := by
  have each := below.files
  change (tree.files.map fun file => (shifted source target file.1, file.2)).lookup _ = _
  generalize tree.files = files at each
  induction files with
  | nil => rfl
  | cons file files ih =>
      obtain ⟨name, content⟩ := file
      obtain ⟨⟨place, -, parts⟩, later⟩ := List.forall_mem_cons.1 each
      obtain rfl : name = source ++ place := parts
      have sameKey : (target ++ rest == target ++ place) = (source ++ rest == source ++ place) := by
        rw [Bool.eq_iff_iff]
        simp
      rw [List.map_cons, List.lookup_cons, List.lookup_cons, shifted_append, sameKey, ih later]

theorem isDirectory_moved (below : tree.LiesBelow source) (target rest : List Text) :
    (tree.moved source target).isDirectory (target ++ rest) =
      tree.isDirectory (source ++ rest) := by
  by_cases top : rest = []
  · subst top
    rw [List.append_nil, List.append_nil, (below.isDirectory List.prefix_rfl).1,
      ((below.moved target).isDirectory List.prefix_rfl).1]
  · rw [Bool.eq_iff_iff, isDirectory_iff, isDirectory_iff]
    simp only [FileTree.moved, List.mem_map, exists_exists_and_eq_and, List.append_eq_nil_iff, top,
      and_false, false_or]
    refine or_congr (exists_congr fun directory => and_congr_right fun member => ?_)
      (exists_congr fun file => and_congr_right fun member => ?_)
    · obtain ⟨place, rfl⟩ := below.directories directory member
      rw [shifted_append, List.prefix_append_right_inj, List.prefix_append_right_inj]
    · obtain ⟨place, -, parts⟩ := below.files file member
      rw [parts, shifted_append, List.prefix_append_right_inj, List.prefix_append_right_inj]
      simp

/-- Looking up a path below the new place comes to what it came to below the old one. -/
theorem holds?_locateFrom_moved (below : tree.LiesBelow source) (target rest : List Text) :
    ∀ place, Path.up ∉ rest →
      ((tree.moved source target).locateFrom (target ++ place) rest).holds? =
        (tree.locateFrom (source ++ place) rest).holds? := by
  induction rest with
  | nil => exact fun _ _ => rfl
  | cons part rest ih =>
      intro place clean
      simp only [List.mem_cons, not_or] at clean
      rw [locateFrom, locateFrom, if_neg (Ne.symm clean.1), if_neg (Ne.symm clean.1)]
      simp only [List.append_assoc, lookup_moved below, isDirectory_moved below]
      cases tree.files.lookup (source ++ (place ++ [part])) with
      | some content => cases rest <;> rfl
      | none =>
          dsimp only
          split
          · exact ih _ clean.2
          · cases rest <;> rfl

/-- **A path leads to the same after the tree was moved with it.** -/
theorem holds?_moved (below : tree.LiesBelow source) (cleanSource : Path.up ∉ source)
    (cleanTarget : Path.up ∉ target) {rest : List Text} (clean : Path.up ∉ rest)
    {root other : Root} (rooted : root ≠ .current) (otherRooted : other ≠ .current) :
    ((tree.moved source target).locate { root := other, parts := target ++ rest }).holds? =
      (tree.locate { root, parts := source ++ rest }).holds? := by
  have same := holds?_locateFrom_moved below target rest [] clean
  rw [List.append_nil, List.append_nil] at same
  simp only [locate, rooted, otherRooted, if_false]
  rw [below.locateFrom cleanSource, (below.moved target).locateFrom cleanTarget, same]

theorem isValid_append (root : Root) (first second : List Text) :
    isValid { root, parts := first ++ second } =
      (isValid { root, parts := first } && isValid { root, parts := second }) := by
  simp [isValid]

end FileTree

end ExportDocs
