/-
# ExportDocs.Proofs.Markdown.Printing -- what is cut off a printed document

A document is printed block by block, and then blank lines are cut off around it.  The cuts stop at
the first and at the last character that is not white space, so they do not reach between two
blocks of markup (`print_between`).
-/
import ExportDocs.Markdown.Printer
import ExportDocs.Proofs.Text

namespace ExportDocs

set_option autoImplicit false

namespace Markdown

theorem cutEnd_append_cons {c : Char} (solid : Text.isBlank c = false) (before after : Text) :
    cutEnd (before ++ c :: after) = before ++ c :: cutEnd after := by
  have body : Text.stripEnd (before ++ c :: after) = before ++ c :: Text.stripEnd after :=
    Text.trimEnd_append_cons Text.isBlank solid before after
  have blanks : (before ++ c :: after).drop (Text.stripEnd (before ++ c :: after)).length =
      after.drop (Text.stripEnd after).length := by
    rw [body, List.length_append, List.length_cons, List.drop_length_add_append,
      List.drop_succ_cons]
  unfold cutEnd
  dsimp only
  rw [blanks, body]
  generalize after.drop (Text.stripEnd after).length = rest
  cases rest with
  | nil => rfl
  | cons d rest =>
      dsimp only
      split <;> simp

theorem leadingLines_newlines (blocks : List (Block (List Inline))) :
    ∃ n, leadingLines blocks = List.replicate n '\n' := by
  fun_induction leadingLines blocks with
  | case1 n rest ih =>
      obtain ⟨m, eq⟩ := ih
      exact ⟨n + m, by rw [eq, List.replicate_append_replicate]⟩
  | case2 => exact ⟨0, rfl⟩

theorem printBlocks_append (inside : Option Bool) (first second : List (Block (List Inline))) :
    printBlocks inside (first ++ second) =
      printBlocks inside first ++ printBlocks inside second := by
  induction first with
  | nil => simp [printBlocks]
  | cons block first ih => simp [printBlocks, ih]

theorem printBlocks_html (inside : Option Bool) (raw : Text) (rest : List (Block (List Inline))) :
    printBlocks inside (.html raw :: rest) = raw ++ '\n' :: '\n' :: printBlocks inside rest := by
  simp [printBlocks, printBlock]

/-- What is printed of blocks at the start of a document, before other text. -/
def opening (blocks : List (Block (List Inline))) : Text :=
  (printBlocks none blocks).dropWhile (· == '\n')

/-- What is printed of blocks at the end of a document, after a block of markup. -/
def closing (blocks : List (Block (List Inline))) : Text :=
  Text.trimEnd (· == '\n') (cutEnd ('\n' :: '\n' :: printBlocks none blocks ++ ['\n'])) ++ ['\n']

/-- Blank lines are cut around a document only: nothing between two markers is. -/
theorem print_between (before between after : List (Block (List Inline))) {first last : Char}
    {start stop : Text} (solidFirst : Text.isBlank first = false)
    (solidLast : Text.isBlank last = false) :
    print (before ++ .html (first :: start) :: (between ++ .html (stop ++ [last]) :: after)) =
      (opening before ++ first :: start ++ ['\n', '\n']) ++ printBlocks none between ++
        (stop ++ last :: closing after) := by
  obtain ⟨n, leading⟩ := leadingLines_newlines
    (before ++ .html (first :: start) :: (between ++ .html (stop ++ [last]) :: after))
  have lead : ∀ t : Text, (List.replicate n '\n' ++ t).dropWhile (· == '\n') =
      t.dropWhile (· == '\n') := by
    intro t
    rw [List.dropWhile_append]
    simp
  have text : List.replicate n '\n' ++ printBlocks none
        (before ++ .html (first :: start) :: (between ++ .html (stop ++ [last]) :: after)) ++ ['\n'] =
      (List.replicate n '\n' ++ printBlocks none before) ++ first :: (start ++ '\n' :: '\n' ::
        (printBlocks none between ++ stop)) ++
          last :: ('\n' :: '\n' :: printBlocks none after ++ ['\n']) := by
    simp only [printBlocks_append, printBlocks_html, List.append_assoc, List.cons_append,
      List.nil_append]
  unfold print
  simp only [leading, text]
  rw [cutEnd_append_cons solidLast, Text.trimBoth, List.append_assoc, List.cons_append,
    Text.dropWhile_append_cons (· == '\n') (Text.ne_newline_of_solid solidFirst), lead]
  change Text.trimEnd _ _ ++ _ = _
  rw [← List.cons_append, ← List.append_assoc,
    Text.trimEnd_append_cons (· == '\n') (Text.ne_newline_of_solid solidLast)]
  simp [opening, closing]

end Markdown

end ExportDocs
