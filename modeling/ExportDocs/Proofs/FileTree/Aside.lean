/-
# ExportDocs.Proofs.FileTree.Aside -- changes that some paths do not show

Looking up a path passes the places on the way to it (`passed`) and asks at each of them whether a
file or a directory stands there; only at the last one does the content of a file count.  A file that
is added, edited or deleted aside from some paths (`ChangedAside`) leaves all these answers as they
were, so the same is read at these paths and the same exists there.

It is not enough that the file stands at none of the paths: a file that is added below a path makes
it a directory, and one that is added above a path stands in its way.
-/
import ExportDocs.Proofs.FileTree
import ExportDocs.Proofs.FileTree.Moved
import Mathlib.Logic.Relation

namespace ExportDocs.FileTree

set_option autoImplicit false

open Relation (ReflTransGen)

variable {tree after : FileTree}

/-! ## The way to a path -/

/-- The places that further parts lead over, from a directory on. -/
def passedFrom (directory : List Text) : List Text → List (List Text)
  | [] => []
  | part :: rest => stepTo directory part :: passedFrom (stepTo directory part) rest

/-- The places on the way to a path, with the place of the path itself. -/
def passed (tree : FileTree) (path : Path) : List (List Text) :=
  passedFrom (if path.root = .current then tree.current else []) path.parts

/-- Two trees have the same kind of thing at a place: a file, a directory, or neither. -/
structure SameKindAt (tree after : FileTree) (place : List Text) : Prop where
  file : (after.files.lookup place).isSome = (tree.files.lookup place).isSome
  directory : after.isDirectory place = tree.isDirectory place

/-- A lookup depends on the kinds of things on the way, and on the file at the end. -/
theorem locateFrom_congr (parts : List Text) : ∀ directory : List Text,
    (∀ place ∈ passedFrom directory parts, tree.SameKindAt after place) →
    after.files.lookup (parts.foldl stepTo directory) =
      tree.files.lookup (parts.foldl stepTo directory) →
    after.locateFrom directory parts = tree.locateFrom directory parts := by
  induction parts with
  | nil => exact fun _ _ _ => rfl
  | cons part rest ih =>
      intro directory kinds stored
      obtain ⟨here, later⟩ := List.forall_mem_cons.1 kinds
      have further := ih _ later stored
      rw [locateFrom, locateFrom]
      by_cases isUp : part = Path.up
      · rw [if_pos isUp, if_pos isUp]
        simpa [stepTo, isUp] using further
      · have step : stepTo directory part = directory ++ [part] := if_neg isUp
        rw [step] at here further
        rw [if_neg isUp, if_neg isUp]
        dsimp only
        rw [here.directory, further]
        cases rest with
        | nil =>
            have last : (part :: []).foldl stepTo directory = directory ++ [part] := step
            rw [← last, stored]
        | cons next rest =>
            -- More is to come, so it does not matter what a file here holds.
            have kind := here.file
            revert kind
            cases after.files.lookup (directory ++ [part]) <;>
              cases tree.files.lookup (directory ++ [part]) <;> simp

/-- The same is seen of a path in both trees. -/
structure SameAt (tree after : FileTree) (path : Path) : Prop where
  read : after.read path = tree.read path
  hasPath : after.hasPath path = tree.hasPath path

theorem SameAt.of_locate {path : Path} (same : after.locate path = tree.locate path) :
    tree.SameAt after path where
  read := by simp only [FileTree.read, contentAt, same]
  hasPath := by simp only [FileTree.hasPath, same]

theorem SameAt.trans {middle : FileTree} {path : Path} (first : tree.SameAt middle path)
    (second : middle.SameAt after path) : tree.SameAt after path where
  read := second.read.trans first.read
  hasPath := second.hasPath.trans first.hasPath

theorem foldl_stepTo_mem (part : Text) (rest : List Text) : ∀ directory : List Text,
    (part :: rest).foldl stepTo directory ∈ passedFrom directory (part :: rest) := by
  induction rest generalizing part with
  | nil => simp [passedFrom]
  | cons next rest ih =>
      intro directory
      exact List.mem_cons_of_mem _ (ih next (stepTo directory part))

/-- A path without parts is the directory where it begins, and nothing is looked up. -/
theorem sameAt_of_passed {path : Path} (current : after.current = tree.current)
    (kinds : ∀ place ∈ tree.passed path, tree.SameKindAt after place)
    (stored : tree.placeOf path ∈ tree.passed path →
      after.files.lookup (tree.placeOf path) = tree.files.lookup (tree.placeOf path)) :
    tree.SameAt after path := by
  refine .of_locate ?_
  rw [locate, locate, current]
  rw [passed] at kinds
  rw [placeOf, passed] at stored
  cases parts : path.parts with
  | nil => rfl
  | cons part rest =>
      rw [parts] at kinds stored
      exact locateFrom_congr _ _ kinds (stored (foldl_stepTo_mem part rest _))

/-! ## Kinds after a change -/

theorem exists_of_lookup {place : List Text} (stands : (tree.files.lookup place).isSome) :
    ∃ content, (place, content) ∈ tree.files := by
  obtain ⟨content, stored⟩ := Option.isSome_iff_exists.1 stands
  obtain ⟨before, later, split, -⟩ := List.lookup_eq_some_iff.1 stored
  exact ⟨content, by simp [split]⟩

/-- A new file makes directories of the places above it only. -/
theorem isDirectory_of_setFile {place parts : List Text} {content : Content}
    (directory : (tree.setFile place content).isDirectory parts) :
    tree.isDirectory parts ∨ (parts <+: place ∧ parts ≠ place) := by
  rw [isDirectory_iff] at directory ⊢
  rcases directory with top | made | ⟨file, member, above⟩
  · exact .inl (.inl top)
  · exact .inl (.inr (.inl made))
  · rcases List.mem_cons.1 member with rfl | old
    · exact .inr above
    · exact .inl (.inr (.inr ⟨file, (List.mem_filter.1 old).1, above⟩))

theorem sameKindAt_setFile {place other : List Text} (content : Content)
    (file : ((tree.setFile place content).files.lookup other).isSome =
      (tree.files.lookup other).isSome)
    (above : other <+: place → other ≠ place → tree.isDirectory other) :
    tree.SameKindAt (tree.setFile place content) other where
  file := file
  directory := by
    rw [Bool.eq_iff_iff]
    refine ⟨fun directory => ?_, isDirectory_setFile place content⟩
    rcases isDirectory_of_setFile directory with old | ⟨onWay, apart⟩
    · exact old
    · exact above onWay apart

/-- A file that is deleted leaves its directory behind. -/
theorem sameKindAt_removeFile {place other : List Text}
    (stands : (tree.files.lookup place).isSome) (apart : other ≠ place) :
    tree.SameKindAt (tree.removeFile place) other where
  file := by rw [removeFile, lookup_filter_ne _ apart]
  directory := by
    obtain ⟨content, stored⟩ := exists_of_lookup stands
    rw [Bool.eq_iff_iff, isDirectory_iff, isDirectory_iff]
    simp only [removeFile, List.mem_cons, exists_eq_or_imp, List.mem_filter, bne_iff_ne, ne_eq]
    constructor
    · rintro (top | (inside | made) | ⟨file, ⟨member, -⟩, above⟩)
      · exact .inl top
      · exact .inr (.inr ⟨_, stored, inside.trans (List.dropLast_prefix place), apart⟩)
      · exact .inr (.inl made)
      · exact .inr (.inr ⟨file, member, above⟩)
    · rintro (top | made | ⟨file, member, above⟩)
      · exact .inl top
      · exact .inr (.inl (.inr made))
      · by_cases gone : file.1 = place
        · refine .inr (.inl (.inl ?_))
          obtain ⟨onWay, differs⟩ := gone ▸ above
          obtain ⟨rest, rfl⟩ := onWay
          have more : rest ≠ [] := by
            rintro rfl
            exact differs (List.append_nil other).symm
          rw [List.dropLast_append_of_ne_nil more]
          exact List.prefix_append _ _
        · exact .inr (.inr ⟨file, ⟨member, gone⟩, above⟩)

/-! ## Changes aside from some paths -/

/-- One file is added, edited or deleted aside from some paths.  A file that is added or deleted
stands nowhere on the way to them, and one that is added makes no new directory there; of a file that
is edited it is enough that it stands at none of them. -/
inductive ChangedAside (paths : List Path) (tree : FileTree) : FileTree → Prop
  | added (place : List Text) (content : Content)
      (unmet : ∀ path ∈ paths, place ∉ tree.passed path)
      (old : ∀ path ∈ paths, ∀ above ∈ tree.passed path, above <+: place →
        tree.isDirectory above) :
      ChangedAside paths tree (tree.setFile place content)
  | edited (place : List Text) (content : Content) (stands : (tree.files.lookup place).isSome)
      (unseen : ∀ path ∈ paths, tree.placeOf path ≠ place) :
      ChangedAside paths tree (tree.setFile place content)
  | deleted (place : List Text) (stands : (tree.files.lookup place).isSome)
      (unmet : ∀ path ∈ paths, place ∉ tree.passed path) :
      ChangedAside paths tree (tree.removeFile place)

variable {paths : List Path}

namespace ChangedAside

theorem current (changed : ChangedAside paths tree after) : after.current = tree.current := by
  cases changed <;> rfl

/-- A change aside from some paths does not show at any of them. -/
theorem sameAt (changed : ChangedAside paths tree after) {path : Path} (member : path ∈ paths) :
    tree.SameAt after path := by
  cases changed with
  | added place content unmet old =>
      have apart : ∀ other ∈ tree.passed path, other ≠ place :=
        fun other met same => unmet path member (same ▸ met)
      refine sameAt_of_passed rfl (fun other met => sameKindAt_setFile content ?_ ?_) fun met => ?_
      · rw [lookup_setFile_ne content (apart other met)]
      · exact fun onWay _ => old path member other met onWay
      · exact lookup_setFile_ne content (apart _ met)
  | edited place content stands unseen =>
      refine sameAt_of_passed rfl (fun other _ => sameKindAt_setFile content ?_ ?_) fun _ => ?_
      · by_cases here : other = place
        · rw [here, lookup_setFile_self, stands, Option.isSome_some]
        · rw [lookup_setFile_ne content here]
      · intro onWay apart
        obtain ⟨_, stored⟩ := exists_of_lookup stands
        exact isDirectory_iff.2 (.inr (.inr ⟨_, stored, onWay, apart⟩))
      · exact lookup_setFile_ne content (unseen path member)
  | deleted place stands unmet =>
      have apart : ∀ other ∈ tree.passed path, other ≠ place :=
        fun other met same => unmet path member (same ▸ met)
      refine sameAt_of_passed rfl (fun other met => sameKindAt_removeFile stands (apart other met))
        fun met => ?_
      rw [removeFile, lookup_filter_ne _ (apart _ met)]

end ChangedAside

/-- What any number of changes aside from some paths leaves as it was. -/
theorem sameAt_of_changes (changes : ReflTransGen (ChangedAside paths) tree after) :
    after.current = tree.current ∧ ∀ path ∈ paths, tree.SameAt after path := by
  induction changes with
  | refl => exact ⟨rfl, fun _ _ => ⟨rfl, rfl⟩⟩
  | tail _ changed ih =>
      exact ⟨changed.current.trans ih.1, fun path member =>
        (ih.2 path member).trans (changed.sameAt member)⟩

end ExportDocs.FileTree
