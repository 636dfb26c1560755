/-
# ExportDocs.Proofs.FileTree -- what changes in a file tree

A path leads to one place (`placeOf`), whether something stands there or not.  Writing changes the
file at that place only, and what was written there is read back (`read_of_write`); making
directories changes no file.  `KeptOutside` compares two trees file by file: contents, files that are
new and files that are gone all count.
-/
import ExportDocs.FileTree

namespace ExportDocs

set_option autoImplicit false

/-- The place where a file stands or could be made. -/
def Located.spot? : Located → Option (List Text)
  | file parts _ => some parts
  | vacant parts => some parts
  | _ => none

namespace FileTree

variable {tree before middle after : FileTree}

/-! ## Where a path leads -/

/-- The place that one more part leads to from a directory. -/
def stepTo (directory : List Text) (part : Text) : List Text :=
  if part = Path.up then directory.dropLast else directory ++ [part]

/-- The place that a path leads to. -/
def placeOf (tree : FileTree) (path : Path) : List Text :=
  path.parts.foldl stepTo (if path.root = .current then tree.current else [])

theorem placeOf_congr (same : after.current = before.current) (path : Path) :
    after.placeOf path = before.placeOf path := by
  simp [placeOf, same]

theorem locateFrom_spot {here : List Text} (parts : List Text) : ∀ directory : List Text,
    (tree.locateFrom directory parts).spot? = some here → here = parts.foldl stepTo directory := by
  induction parts with
  | nil => simp [locateFrom, Located.spot?]
  | cons part rest ih =>
      intro directory found
      rw [locateFrom] at found
      rw [List.foldl_cons, stepTo]
      split at found
      · rename_i isUp
        simpa [isUp] using ih _ found
      · rename_i notUp
        rw [if_neg notUp]
        cases stored : tree.files.lookup (directory ++ [part]) with
        | some content => cases rest <;> simp_all [Located.spot?]
        | none =>
            simp only [stored] at found
            split at found
            · exact ih _ found
            · cases rest <;> simp_all [Located.spot?]

/-! ## What an operation changes -/

theorem write_eq_ok_iff {path : Path} {text : Text} :
    tree.write path text = .ok after ↔ isValid path ∧ ∃ here,
      (tree.locate path).spot? = some here ∧ after = tree.setFile here (.text text) := by
  unfold write
  cases isValid path with
  | false => simp
  | true => cases tree.locate path <;> simp [Located.spot?, eq_comm]

/-- A text is written at the place that the path leads to, and nowhere else. -/
theorem write_eq_ok {path : Path} {text : Text} (written : tree.write path text = .ok after) :
    after = tree.setFile (tree.placeOf path) (.text text) := by
  obtain ⟨-, here, spot, rfl⟩ := write_eq_ok_iff.1 written
  rw [locateFrom_spot path.parts _ spot]
  rfl

theorem lookup_filter_ne (files : List (List Text × Content)) {place other : List Text}
    (apart : place ≠ other) :
    (files.filter (·.1 != other)).lookup place = files.lookup place := by
  induction files with
  | nil => rfl
  | cons file files ih =>
      obtain ⟨name, content⟩ := file
      by_cases same : name = other
      · have elsewhere : (place == name) = false := by simpa [same] using apart
        rw [List.lookup_cons, elsewhere, List.filter_cons_of_neg (by simp [same]), ih]
      · rw [List.filter_cons_of_pos (by simpa using same), List.lookup_cons, List.lookup_cons, ih]

theorem lookup_setFile_ne {place other : List Text} (content : Content) (apart : place ≠ other) :
    (tree.setFile other content).files.lookup place = tree.files.lookup place := by
  have elsewhere : (place == other) = false := by simpa using apart
  simp [setFile, List.lookup_cons, elsewhere, lookup_filter_ne _ apart]

theorem makeDirectories_eq_ok (root : Root) (parts : List Text) :
    ∀ {tree after : FileTree}, tree.makeDirectories root parts = .ok after →
      after.files = tree.files ∧ after.current = tree.current := by
  induction parts with
  | nil =>
      intro tree after made
      cases made
      exact ⟨rfl, rfl⟩
  | cons part above ih =>
      intro tree after made
      unfold makeDirectories at made
      simp only at made
      split at made
      · -- A directory above is missing too, and is made first.
        cases below : tree.makeDirectories root above with
        | error fault => simp [below, bind, Except.bind] at made
        | ok middle =>
            obtain ⟨files, current⟩ := ih below
            simp only [below, bind, Except.bind] at made
            split at made <;> cases made <;> exact ⟨files, current⟩
      · split at made <;> cases made <;> exact ⟨rfl, rfl⟩

/-! ## Reading what was written -/

theorem lookup_setFile_self (place : List Text) (content : Content) :
    (tree.setFile place content).files.lookup place = some content := by
  simp [setFile]

theorem isDirectory_setFile {parts : List Text} (place : List Text) (content : Content)
    (directory : tree.isDirectory parts) : (tree.setFile place content).isDirectory parts := by
  unfold isDirectory at directory ⊢
  rcases Bool.or_eq_true_iff.1 directory with made | holds
  · exact Bool.or_eq_true_iff.2 (.inl made)
  · obtain ⟨⟨file, stored⟩, member, below⟩ := List.any_eq_true.1 holds
    refine Bool.or_eq_true_iff.2 (.inr (List.any_eq_true.2 ?_))
    by_cases same : file = place
    · exact ⟨(place, content), List.mem_cons_self, same ▸ below⟩
    · exact ⟨(file, stored), List.mem_cons_of_mem _ (List.mem_filter.2 ⟨member, by simpa using same⟩),
        below⟩

/-- No file stands where a directory does, as far as a path can tell. -/
theorem locateFrom_spot_isDirectory {here : List Text} (parts : List Text) :
    ∀ directory : List Text, (tree.locateFrom directory parts).spot? = some here →
      tree.files.lookup here = none → tree.isDirectory here = false := by
  induction parts with
  | nil => simp [locateFrom, Located.spot?]
  | cons part rest ih =>
      intro directory found vacant
      rw [locateFrom] at found
      split at found
      · exact ih _ found vacant
      · dsimp only at found
        split at found
        · rename_i content stored
          split at found
          · cases found
            rw [stored] at vacant
            cases vacant
          · cases found
        · split at found
          · exact ih _ found vacant
          · rename_i notDirectory
            split at found
            · cases found
              simpa using notDirectory
            · cases found

/-- What is written at the end of a path is found there. -/
theorem locateFrom_setFile {here : List Text} (content : Content) (parts : List Text) :
    ∀ directory : List Text, (tree.locateFrom directory parts).spot? = some here →
      (tree.setFile here content).locateFrom directory parts = .file here content := by
  induction parts with
  | nil => simp [locateFrom, Located.spot?]
  | cons part rest ih =>
      intro directory found
      have notDirectory := locateFrom_spot_isDirectory (part :: rest) directory found
      rw [locateFrom] at found ⊢
      split at found
      · rename_i isUp
        rw [if_pos isUp]
        exact ih _ found
      · rename_i notUp
        rw [if_neg notUp]
        dsimp only at found ⊢
        by_cases arrived : directory ++ [part] = here
        · have last : rest.isEmpty := by
            rw [arrived] at found
            refine Decidable.byContradiction fun more => ?_
            split at found
            · rw [if_neg more] at found
              cases found
            · rename_i vacant
              rw [notDirectory vacant, if_neg (by decide), if_neg more] at found
              cases found
          rw [arrived, lookup_setFile_self]
          exact if_pos last
        · rw [lookup_setFile_ne content arrived]
          split at found
          · split at found <;> cases found
            exact absurd rfl arrived
          · rename_i vacant
            split at found
            · rename_i isDirectory
              rw [if_pos (isDirectory_setFile here content isDirectory)]
              exact ih _ found
            · split at found <;> cases found
              exact absurd rfl arrived

/-- A text that was written is read back with its line ends unified. -/
theorem read_of_write {path : Path} {text : Text} (written : tree.write path text = .ok after) :
    after.read path = .ok (Text.foldNewlines text) := by
  obtain ⟨valid, here, spot, rfl⟩ := write_eq_ok_iff.1 written
  have located : (tree.setFile here (.text text)).locate path = .file here (.text text) :=
    locateFrom_setFile _ path.parts _ spot
  simp only [read, contentAt, valid, located]
  rfl

/-- Where a text was written, another can be, before or after. -/
theorem write_again {path : Path} {text : Text} (written : tree.write path text = .ok after)
    (other : Text) :
    (∃ instead, tree.write path other = .ok instead) ∧
      ∃ next, after.write path other = .ok next := by
  obtain ⟨valid, here, spot, rfl⟩ := write_eq_ok_iff.1 written
  have located : (tree.setFile here (.text text)).locate path = .file here (.text text) :=
    locateFrom_setFile _ path.parts _ spot
  exact ⟨⟨_, write_eq_ok_iff.2 ⟨valid, here, spot, rfl⟩⟩,
    ⟨_, write_eq_ok_iff.2 ⟨valid, here, by rw [located]; rfl, rfl⟩⟩⟩

/-! ## What stays -/

/-- Two trees have the same files, except perhaps at some places. -/
structure KeptOutside (places : List (List Text)) (before after : FileTree) : Prop where
  current : after.current = before.current
  files : ∀ place ∉ places, after.files.lookup place = before.files.lookup place

namespace KeptOutside

variable {places more : List (List Text)}

theorem refl (tree : FileTree) : KeptOutside places tree tree :=
  ⟨rfl, fun _ _ => rfl⟩

theorem trans (first : KeptOutside places before middle)
    (second : KeptOutside places middle after) : KeptOutside places before after :=
  ⟨second.current.trans first.current, fun place apart =>
    (second.files place apart).trans (first.files place apart)⟩

theorem mono (kept : KeptOutside places before after) (wider : places ⊆ more) :
    KeptOutside more before after :=
  ⟨kept.current, fun place apart => kept.files place fun member => apart (wider member)⟩

theorem makeDirectory {path : Path} (kept : KeptOutside places before middle)
    (made : middle.makeDirectory path = .ok after) : KeptOutside places before after := by
  unfold FileTree.makeDirectory at made
  split at made
  · simp at made
  · obtain ⟨files, current⟩ := makeDirectories_eq_ok _ _ made
    exact kept.trans ⟨current, fun place _ => by rw [files]⟩

theorem setFile (kept : KeptOutside places before middle) (place : List Text) (content : Content) :
    KeptOutside (place :: places) before (middle.setFile place content) :=
  (kept.mono (List.subset_cons_self _ _)).trans
    ⟨rfl, fun _ apart => lookup_setFile_ne _ (List.ne_of_not_mem_cons apart)⟩

theorem write {path : Path} {text : Text} (kept : KeptOutside places before middle)
    (written : middle.write path text = .ok after) :
    KeptOutside (before.placeOf path :: places) before after := by
  rw [write_eq_ok written, placeOf_congr kept.current]
  exact kept.setFile _ _

end KeptOutside

/-- Two trees have the same files, except perhaps at some places, and but for the file at a path,
which is empty in the second one. -/
structure LeftEmpty (places : List (List Text)) (path : Path) (before after : FileTree) : Prop where
  kept : KeptOutside (before.placeOf path :: places) before after
  empty : after.files.lookup (before.placeOf path) = some (.text [])

theorem KeptOutside.emptied {places : List (List Text)} {path : Path}
    (kept : KeptOutside places before middle) (opened : middle.write path [] = .ok after) :
    LeftEmpty places path before after := by
  refine ⟨kept.write opened, ?_⟩
  rw [write_eq_ok opened, placeOf_congr kept.current]
  exact lookup_setFile_self _ _

end FileTree

end ExportDocs
