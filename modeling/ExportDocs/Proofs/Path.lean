/-
# ExportDocs.Proofs.Path -- roots and parts of paths

A path that is read from a text is `WellFormed`: its parts are not empty, not a dot, and hold no
slash.  Joining and normalizing keep this, and a well-formed path that is written, also with more
text after it, has its own root when it is read again.  The normal form of a path with a root has
no double dots at all.
-/
import ExportDocs.Path
import ExportDocs.Proofs.Text

namespace ExportDocs

set_option autoImplicit false

namespace Path

/-! ## Well-formed paths -/

/-- The parts are not empty, not a dot, and hold no slash. -/
def WellFormed (path : Path) : Prop :=
  ∀ part ∈ path.parts, part ≠ [] ∧ part ≠ ['.'] ∧ '/' ∉ part

theorem ofText_wellFormed (t : Text) : (ofText t).WellFormed := by
  intro part member
  obtain ⟨piece, kept⟩ := List.mem_filter.1 member
  have facts : part ≠ [] ∧ part ≠ ['.'] := by simpa using kept
  exact ⟨facts.1, facts.2, Text.splitAtChar_free '/' t part piece⟩

theorem WellFormed.join {base path : Path} (ofBase : base.WellFormed) (ofPath : path.WellFormed) :
    (base.join path).WellFormed := by
  unfold Path.join
  split
  · intro part member
    rcases List.mem_append.1 member with inBase | inPath
    · exact ofBase part inBase
    · exact ofPath part inPath
  · exact ofPath

/-! ## Normal forms -/

/-- A part of the normal form is a part of the path, or a double dot. -/
theorem mem_foldl_take (root : Root) (parts reversed : List Text) :
    ∀ part ∈ parts.foldl (take root) reversed,
      part = up ∨ part ∈ reversed ∨ part ∈ parts := by
  induction parts generalizing reversed with
  | nil => exact fun part member => .inr (.inl member)
  | cons next parts ih =>
      intro part member
      have taken : ∀ part ∈ take root reversed next, part = up ∨ part ∈ reversed ∨ part = next := by
        unfold take
        cases reversed <;> grind
      rcases ih _ part member with isUp | inTaken | inRest
      · exact .inl isUp
      · rcases taken part inTaken with isUp | before | rfl
        · exact .inl isUp
        · exact .inr (.inl before)
        · exact .inr (.inr (by simp))
      · exact .inr (.inr (by simp [inRest]))

theorem WellFormed.normalize {path : Path} (wellFormed : path.WellFormed) :
    path.normalize.WellFormed := by
  intro part member
  rcases mem_foldl_take path.root path.parts [] part (List.mem_reverse.1 member) with
    rfl | none | inPath
  · decide
  · simp at none
  · exact wellFormed part inPath

theorem foldl_take_no_up {root : Root} (rooted : root ≠ .current) (parts reversed : List Text)
    (clean : up ∉ reversed) : up ∉ parts.foldl (take root) reversed := by
  induction parts generalizing reversed with
  | nil => exact clean
  | cons next parts ih =>
      refine ih _ ?_
      unfold take
      cases reversed <;> grind

/-- The normal form of a path with a root has no double dots. -/
theorem normalize_no_up {path : Path} (rooted : path.root ≠ .current) :
    up ∉ path.normalize.parts := by
  simpa [Path.normalize] using foldl_take_no_up rooted path.parts [] (by simp)

@[simp] theorem normalize_root (path : Path) : path.normalize.root = path.root := rfl

/-- A path with a root and without double dots. -/
def IsRooted (path : Path) : Prop := path.root ≠ .current ∧ up ∉ path.parts

/-- A well-formed path with the given root and without double dots. -/
def IsFrom (root : Root) (path : Path) : Prop :=
  path.root = root ∧ path.WellFormed ∧ up ∉ path.parts

theorem isRooted_normalize {path : Path} (rooted : path.root ≠ .current) :
    path.normalize.IsRooted := ⟨rooted, normalize_no_up rooted⟩

theorem isFrom_normalize {path : Path} (wellFormed : path.WellFormed)
    (rooted : path.root ≠ .current) : path.normalize.IsFrom path.root :=
  ⟨rfl, wellFormed.normalize, normalize_no_up rooted⟩

/-! ## Roots -/

theorem rootOf_eq_current {n : Nat} : rootOf n = .current ↔ n = 0 := by
  unfold rootOf
  split <;> simp_all

theorem takeWhile_slash_of_free {t : Text} (free : '/' ∉ t) : t.takeWhile (· == '/') = [] := by
  cases t with
  | nil => rfl
  | cons c t =>
      have different : c ≠ '/' := fun same => free (by simp [same])
      simp [different]

/-- The directory of a file starts where the file does. -/
theorem folderOf_root (t : Text) : (folderOf t).root = (ofText t).root := by
  have whole : (t.reverse.dropWhile (· != '/')).reverse ++
      (t.reverse.takeWhile (· != '/')).reverse = t := by
    rw [← List.reverse_append, List.takeWhile_append_dropWhile, List.reverse_reverse]
  have free : (t.reverse.takeWhile (· != '/')).reverse.takeWhile (· == '/') = [] := by
    refine takeWhile_slash_of_free fun member => ?_
    have last := List.all_eq_true.1 (List.all_takeWhile (l := t.reverse) (p := (· != '/')))
    simpa using last '/' (List.mem_reverse.1 member)
  -- What is cut off holds no slash, so the slashes at the start are all kept.
  have slashes : (t.reverse.dropWhile (· != '/')).reverse.takeWhile (· == '/') =
      t.takeWhile (· == '/') := by
    conv => rhs; rw [← whole]
    rw [List.takeWhile_append, free, List.append_nil]
    split
    · rename_i allSlashes
      exact (List.takeWhile_prefix _).eq_of_length allSlashes
    · rfl
  simp only [folderOf, ofText, slashes]

/-- A text that starts with a slash is read as a path with a root. -/
theorem ofText_rooted_of_slash (t : Text) : (ofText ('/' :: t)).root ≠ .current := by
  simp [ofText, rootOf_eq_current]

/-- A path with a root is written with a slash at the start. -/
theorem toText_of_rooted {path : Path} (rooted : path.root ≠ .current) :
    ∃ rest, path.toText = '/' :: rest := by
  unfold toText
  split
  · simp_all
  · cases root : path.root with
    | current => exact absurd root rooted
    | absolute => exact ⟨_, rfl⟩
    | network => exact ⟨_, rfl⟩

theorem joinWith_no_slash {parts : List Text}
    (wellFormed : ∀ part ∈ parts, part ≠ [] ∧ part ≠ ['.'] ∧ '/' ∉ part) {tail : Text}
    (plain : tail.takeWhile (· == '/') = []) :
    (Text.joinWith ['/'] parts ++ tail).takeWhile (· == '/') = [] := by
  cases parts with
  | nil => exact plain
  | cons part rest =>
      obtain ⟨nonempty, -, free⟩ := wellFormed part (by simp)
      cases part with
      | nil => exact absurd rfl nonempty
      | cons c part =>
          have different : c ≠ '/' := fun same => free (by simp [same])
          cases rest <;> simp [Text.joinWith, different]

/-- A well-formed path that is written before more text is read with its own root. -/
theorem ofText_toText_append_root {path : Path} (wellFormed : path.WellFormed) {tail : Text}
    (plain : tail.takeWhile (· == '/') = []) : (ofText (path.toText ++ tail)).root = path.root := by
  have joined := joinWith_no_slash wellFormed plain
  unfold toText ofText
  split
  · rename_i root _
    simp [root, rootOf]
  · cases root : path.root <;> simp [rootText, rootOf, joined]

end Path

end ExportDocs
