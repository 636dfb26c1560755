/-
# ExportDocs.Proofs.Imports.Names -- how many names a stack can hold

A path with a root and without double dots names a file by its parts, so there are no more such
names than roots times files.  Imports lead from such paths to such paths: from any path with a
root to one with a root, and under the default settings to one with the same root.

`Bounded` puts the two together: a kind of paths that imports do not leave, and a bound for the
stacks without repetition that hold readable files of this kind.
-/
import ExportDocs.Proofs.Imports.Graph
import Mathlib.Data.Finset.Card
import Mathlib.Data.Finset.Prod

namespace ExportDocs

set_option autoImplicit false

/-! ## Files by their names -/

namespace FileTree

variable {tree : FileTree}

/-- The names of the files of a tree. -/
def names (tree : FileTree) : Finset (List Text) := (tree.files.map Prod.fst).toFinset

theorem names_card_le (tree : FileTree) : tree.names.card ≤ tree.files.length := by
  simpa [names] using (tree.files.map Prod.fst).toFinset_card_le

theorem locateFrom_eq_file {content : Content} {here : List Text} (parts : List Text) :
    ∀ directory : List Text, Path.up ∉ parts →
      tree.locateFrom directory parts = .file here content →
      here = directory ++ parts ∧ tree.files.lookup here = some content := by
  induction parts with
  | nil => simp [locateFrom]
  | cons part rest ih =>
      intro directory clean located
      have notUp : part ≠ Path.up := fun same => clean (by simp [same])
      rw [locateFrom, if_neg notUp] at located
      cases stored : tree.files.lookup (directory ++ [part]) with
      | some stored' =>
          simp only [stored] at located
          split at located
          · rename_i last
            cases located
            simp_all
          · simp at located
      | none =>
          simp only [stored] at located
          split at located
          · have further := ih _ (fun member => clean (by simp [member])) located
            simpa using further
          · split at located <;> simp at located

/-- A file that is read by a path with a root and without double dots is named by its parts. -/
theorem parts_mem_names {path : Path} {source : Text} (rooted : path.root ≠ .current)
    (clean : Path.up ∉ path.parts) (read : tree.read path = .ok source) :
    path.parts ∈ tree.names := by
  have located : ∃ here content, tree.locate path = .file here content := by
    unfold FileTree.read contentAt at read
    split at read
    · simp [bind, Except.bind] at read
    · split at read
      · exact ⟨_, _, by assumption⟩
      all_goals simp [bind, Except.bind] at read
  obtain ⟨here, content, located⟩ := located
  rw [locate, if_neg rooted] at located
  obtain ⟨rfl, stored⟩ := locateFrom_eq_file _ _ clean located
  obtain ⟨before, after, split, -⟩ := List.lookup_eq_some_iff.1 stored
  simp [names, split]

end FileTree

/-! ## Where imports lead -/

namespace Resolution

variable {extension indexName : Text} {isThere : Path → Bool} {base specifier : Text} {path : Path}

/-- A specifier names its target, the target with the extension, or the index file in it. -/
theorem lookup_found
    (found : (lookup extension indexName isThere base specifier).found = some path) :
    path = target base specifier ∨
      path = Path.ofText ((target base specifier).toText ++ extension) ∨
      path = (target base specifier).join (Path.ofText (indexName ++ extension)) := by
  simp only [lookup] at found
  split at found
  · exact .inl (Option.some.inj found).symm
  · simpa [candidates] using Or.inr (search_found_mem found)

theorem join_rooted {first second : Path} (rooted : first.root ≠ .current) :
    (first.join second).root ≠ .current := by
  unfold Path.join
  split
  · exact rooted
  · assumption

/-- From a path with a root, every specifier names a path with a root. -/
theorem lookup_found_rooted {file : Path} (rooted : file.root ≠ .current)
    (found : (lookup extension indexName isThere file.toText specifier).found = some path) :
    path.root ≠ .current := by
  have targetRooted : (target file.toText specifier).root ≠ .current := by
    obtain ⟨rest, text⟩ := Path.toText_of_rooted rooted
    refine join_rooted ?_
    rw [Path.folderOf_root, text]
    exact Path.ofText_rooted_of_slash rest
  rcases lookup_found found with rfl | rfl | rfl
  · exact targetRooted
  · obtain ⟨rest, text⟩ := Path.toText_of_rooted targetRooted
    rw [text]
    exact Path.ofText_rooted_of_slash _
  · exact join_rooted targetRooted

/-- By default a local specifier starts with a dot, so it has no root of its own. -/
theorem local_root (isLocal : ({} : Settings).isLocal specifier) :
    (Path.ofText specifier).root = .current := by
  cases specifier with
  | nil => rfl
  | cons c rest =>
      have dot : c = '.' := by
        simp [Settings.isLocal, Text.startsWith] at isLocal
        rcases isLocal with ⟨same, -⟩ | ⟨same, -⟩ <;> exact same.symm
      simp [dot, Path.ofText, Path.rootOf]

/-- By default a local specifier leads from a well-formed path to one with the same root. -/
theorem lookup_found_default {file : Path} (wellFormed : file.WellFormed)
    (isLocal : ({} : Settings).isLocal specifier)
    (found : (lookup ({} : Settings).sourceExtension ({} : Settings).indexName isThere file.toText
      specifier).found = some path) : path.root = file.root ∧ path.WellFormed := by
  have targetRoot : (target file.toText specifier).root = file.root := by
    have folder : (Path.folderOf file.toText).root = file.root := by
      rw [Path.folderOf_root]
      simpa using Path.ofText_toText_append_root wellFormed
        (List.takeWhile_nil : [].takeWhile _ = [])
    simp [target, Path.join, local_root isLocal, folder]
  have targetFormed : (target file.toText specifier).WellFormed :=
    ((Path.ofText_wellFormed _).join (Path.ofText_wellFormed _)).normalize
  rcases lookup_found found with rfl | rfl | rfl
  · exact ⟨targetRoot, targetFormed⟩
  · rw [← targetRoot]
    exact ⟨Path.ofText_toText_append_root targetFormed (by decide), Path.ofText_wellFormed _⟩
  · refine ⟨?_, targetFormed.join (Path.ofText_wellFormed _)⟩
    rw [← targetRoot]
    rfl

end Resolution

/-! ## Bounded kinds of paths -/

namespace Project

/-- Imports stay among the proper paths, and a stack of readable files with proper paths, none of
them twice, is no longer than the bound. -/
structure Bounded (project : Project) (Proper : Path → Prop) (bound : Nat) : Prop where
  imports : ∀ file target, Proper file → project.Imports file target → Proper target
  length_le : ∀ stack : Stack, stack.Nodup →
    (∀ file ∈ stack, Proper file ∧ ∃ source, project.files.read file = .ok source) →
    stack.length ≤ bound

/-- Different paths with roots among `roots` and names among `names` are no more than these make. -/
theorem length_le_card_mul (roots : Finset Root) (names : Finset (List Text)) (stack : Stack)
    (nodup : stack.Nodup) (named : ∀ file ∈ stack, file.root ∈ roots ∧ file.parts ∈ names) :
    stack.length ≤ roots.card * names.card := by
  rw [← List.toFinset_card_of_nodup nodup, ← Finset.card_product]
  refine Finset.card_le_card_of_injOn (fun file => (file.root, file.parts)) ?_ ?_
  · intro file member
    simpa using named file (by simpa using member)
  · intro first _ second _ same
    cases first
    cases second
    simpa using same

variable (project : Project)

/-- Paths with a root and without double dots: each file has at most two such names. -/
theorem bounded_of_rooted :
    project.Bounded Path.IsRooted (2 * project.files.names.card) where
  imports := by
    rintro file target ⟨rooted, -⟩ ⟨specifier, -, -, path, resolved, rfl⟩
    exact Path.isRooted_normalize
      (Resolution.lookup_found_rooted rooted (resolve_eq_ok_iff.1 resolved))
  length_le := by
    intro stack nodup files
    refine length_le_card_mul {.absolute, .network} _ stack nodup fun file member => ?_
    obtain ⟨⟨rooted, clean⟩, source, read⟩ := files file member
    refine ⟨?_, FileTree.parts_mem_names rooted clean read⟩
    cases root : file.root <;> simp_all

/-- Under the default settings, well-formed paths with one root and without double dots: each file
has one such name. -/
theorem bounded_of_defaults (defaults : project.settings = {}) {root : Root}
    (rooted : root ≠ .current) :
    project.Bounded (Path.IsFrom root) project.files.names.card where
  imports := by
    rintro file target ⟨rfl, wellFormed, -⟩ ⟨specifier, -, isLocal, path, resolved, rfl⟩
    have found := resolve_eq_ok_iff.1 resolved
    rw [lookup, defaults] at found
    rw [defaults] at isLocal
    obtain ⟨sameRoot, pathFormed⟩ := Resolution.lookup_found_default wellFormed isLocal found
    exact sameRoot ▸ Path.isFrom_normalize pathFormed (sameRoot ▸ rooted)
  length_le := by
    intro stack nodup files
    have := length_le_card_mul {root} project.files.names stack nodup fun file member => by
      obtain ⟨⟨rfl, -, clean⟩, source, read⟩ := files file member
      exact ⟨by simp, FileTree.parts_mem_names rooted clean read⟩
    simpa using this

end Project

end ExportDocs
