/-
# ExportDocs.Proofs.Report.SourceLinks -- links lead to the sources

A symbol carries the way from the root of its project to its file.  A report turns this into the way
from the document to the file: it joins the first way to the root and asks for the second one.  Both
ways are undone by joining and normalizing, so a reader who follows the link from the directory of
the document arrives at the file, wherever root, document and file lie.
-/
import ExportDocs.Imports.Walk
import ExportDocs.Proofs.Path.Relative
import ExportDocs.Report
import Mathlib.Data.Nat.Digits.Defs

namespace ExportDocs.Report

set_option autoImplicit false

/-- A link target without the lines that it names: what stands before its last number sign. -/
def withoutLines (target : Text) : Text := (Text.trimEnd (· != '#') target).dropLast

/-- A number is written with digits and perhaps a sign. -/
theorem mem_ofInt {n : Int} {c : Char} (member : c ∈ Text.ofInt n) : c.isDigit = true ∨ c = '-' := by
  have digits : ∀ n : Nat, c ∈ Text.ofNat n → c.isDigit = true := fun n member =>
    Nat.isDigit_of_mem_toDigits (by decide) (by decide) member
  cases n with
  | ofNat n => exact .inl (digits n member)
  | negSucc n =>
      rcases List.mem_cons.1 member with sign | digit
      · exact .inr sign
      · exact .inl (digits (n + 1) digit)

theorem mem_lineSpan {symbol : Symbol} {c : Char} (member : c ∈ lineSpan symbol) :
    c.isDigit = true ∨ c = '-' ∨ c = 'L' := by
  have first : c ∈ 'L' :: Text.ofInt symbol.firstLine → c.isDigit = true ∨ c = '-' ∨ c = 'L' := by
    intro member
    rcases List.mem_cons.1 member with letter | number
    · exact .inr (.inr letter)
    · exact (mem_ofInt number).imp_right .inl
  unfold lineSpan at member
  dsimp only at member
  split at member
  · rcases List.mem_append.1 member with before | after
    · exact first before
    · rcases List.mem_cons.1 after with dash | after
      · exact .inr (.inl dash)
      · rcases List.mem_cons.1 after with letter | number
        · exact .inr (.inr letter)
        · exact (mem_ofInt number).imp_right .inl
  · exact first member

theorem lineSpan_no_hash (symbol : Symbol) : '#' ∉ lineSpan symbol := by
  intro member
  rcases mem_lineSpan member with digit | sign | letter
  · exact absurd digit (by decide)
  · exact absurd sign (by decide)
  · exact absurd letter (by decide)

theorem withoutLines_append (way : Text) (symbol : Symbol) :
    withoutLines (way ++ '#' :: lineSpan symbol) = way := by
  rw [withoutLines, Text.trimEnd_ne_append (lineSpan_no_hash symbol), List.dropLast_concat]

/-- The file that a reported path names is the file that it was reported for. -/
theorem normalize_join_reported {project : Project} {file : Path}
    (root : project.root.IsFrom .absolute) (ofFile : file.IsFrom .absolute) :
    (project.root.join (Path.ofText (project.relative file))).normalize = file := by
  obtain ⟨rooted, formed, clean⟩ := ofFile
  obtain ⟨rootRooted, -, rootClean⟩ := root
  have isRooted : project.root.IsRooted := ⟨by simp [rootRooted], rootClean⟩
  rw [Project.relative, Path.normalize_join_relativeTo isRooted (by simp [rooted]) formed,
    Path.normalize_of_no_up clean, rootRooted, ← rooted]

/-- **Links lead to the sources.**  Let the root of a project, a document and a file have absolute
normal paths, and let a symbol carry the path that the project reports for the file.  Then the
target of its link, without the lines and seen from the directory of the document, is the file. -/
theorem sourceLink_leads_to_source (project : Project) (document file : Path) (symbol : Symbol)
    (root : project.root.IsFrom .absolute) (ofDocument : document.IsFrom .absolute)
    (ofFile : file.IsFrom .absolute) (reported : symbol.path = project.relative file) :
    let place : Place := { root := project.root, document, current := project.files.current }
    ∃ target,
      sourceLink place symbol =
        '[' :: (Path.ofText symbol.path).toText ++ '#' :: lineSpan symbol ++
          ']' :: '(' :: target ++ [')'] ∧
      (document.parent.join (Path.ofText (withoutLines target))).normalize = file := by
  intro place
  refine ⟨sourceTarget place symbol ++ '#' :: lineSpan symbol, by simp [sourceLink], ?_⟩
  obtain ⟨documentRooted, -, documentClean⟩ := ofDocument
  have folderRooted : document.parent.IsRooted :=
    ⟨by simp [Path.parent, documentRooted], mt (List.dropLast_subset _ ·) documentClean⟩
  have source := normalize_join_reported root ofFile
  -- The joined path still goes up and down again; only its normal form is the file.
  have joinedRoot : (project.root.join (Path.ofText symbol.path)).root = .absolute := by
    rw [reported, ← Path.normalize_root, source, ofFile.1]
  have joinedFormed : (project.root.join (Path.ofText symbol.path)).WellFormed :=
    root.2.1.join (Path.ofText_wellFormed _)
  rw [withoutLines_append, sourceTarget,
    Path.normalize_join_relativeTo folderRooted (by simp [joinedRoot]) joinedFormed, reported,
    source]
  obtain ⟨sameRoot, -, -⟩ := ofFile
  simp [Path.parent, documentRooted, ← sameRoot]

/-- Root, document and file lie in three directories of which none contains another. -/
theorem sourceLink_leads_to_sibling :
    let project := Project.ofModules {} {} (Path.ofText "/work/app".toList) 0
    let document := Path.ofText "/work/docs/api.md".toList
    let file := Path.ofText "/lib/a#b/util.js".toList
    let symbol : Symbol :=
      { path := "../../lib/a#b/util.js".toList, name := "one".toList
        firstLine := 3, lastLine := 7 }
    let link := "[../../lib/a#b/util.js#L3-L7](../../lib/a#b/util.js#L3-L7)".toList
    symbol.path = project.relative file ∧
    sourceLink { root := project.root, document } symbol = link ∧
    ∃ target, link = "[../../lib/a#b/util.js#L3-L7](".toList ++ target ++ [')'] ∧
      (document.parent.join (Path.ofText (withoutLines target))).normalize = file := by
  intro project document file symbol link
  have isFrom : ∀ t : Text, (Path.ofText t).root = .absolute → Path.up ∉ (Path.ofText t).parts →
      (Path.ofText t).IsFrom .absolute :=
    fun t root clean => ⟨root, Path.ofText_wellFormed t, clean⟩
  have reported : symbol.path = project.relative file := by decide
  have written : sourceLink { root := project.root, document } symbol = link := by decide
  obtain ⟨target, parted, leads⟩ := sourceLink_leads_to_source project document file symbol
    (isFrom _ (by decide) (by decide)) (isFrom _ (by decide) (by decide))
    (isFrom _ (by decide) (by decide)) reported
  exact ⟨reported, written, target, written.symm.trans parted, leads⟩

end ExportDocs.Report
