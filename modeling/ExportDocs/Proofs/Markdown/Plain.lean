/-
# ExportDocs.Proofs.Markdown.Plain -- lines that are read as they are written

A plain block takes one line: a heading or a paragraph in which no character means something, or a
comment.  Its line is read as that block wherever blank lines keep it apart from others
(`readAll_line`), and its inline content is one text (`readInline_plain`).
-/
import ExportDocs.Document
import ExportDocs.Proofs.Markdown.Printing

namespace ExportDocs

set_option autoImplicit false

/-! ## Search -/

namespace Text

/-- The text before the first occurrence, the occurrence, and the text after it are the whole. -/
theorem eq_of_breakOn {needle t before rest : Text}
    (found : breakOn needle t = some (before, rest)) : t = before ++ needle ++ rest := by
  induction t generalizing before with
  | nil => simp_all [breakOn]
  | cons c t ih =>
      simp only [breakOn] at found
      split at found
      · rename_i after head
        cases found
        exact dropHead?_eq_some.1 head
      · simp only [Option.map_eq_some_iff, Prod.mk.injEq, Prod.exists] at found
        obtain ⟨front, _, found, rfl, rfl⟩ := found
        rw [ih found, List.cons_append, List.cons_append]

/-- The first occurrence stays the first when text is added after it. -/
theorem breakOn_append {needle t before rest : Text} (nonempty : needle ≠ [])
    (found : breakOn needle t = some (before, rest)) (more : Text) :
    breakOn needle (t ++ more) = some (before, rest ++ more) := by
  induction t generalizing before with
  | nil => simp [breakOn, nonempty] at found
  | cons c t ih =>
      simp only [breakOn, List.cons_append] at found ⊢
      split at found
      · rename_i after head
        cases found
        have head : dropHead? needle (c :: (t ++ more)) = some (rest ++ more) := by
          rw [dropHead?_eq_some] at head ⊢
          rw [← List.cons_append, head, List.append_assoc]
        rw [head]
      · rename_i missing
        simp only [Option.map_eq_some_iff, Prod.mk.injEq, Prod.exists] at found
        obtain ⟨front, _, found, rfl, rfl⟩ := found
        have missing : dropHead? needle (c :: (t ++ more)) = none := by
          -- The occurrence further on leaves no room for one that reaches into what is added.
          cases early : dropHead? needle (c :: (t ++ more)) with
          | none => rfl
          | some after =>
              have within : needle <+: c :: t := by
                have reaches : needle <+: c :: t ++ more :=
                  ⟨after, (dropHead?_eq_some.1 early).symm⟩
                refine List.prefix_of_prefix_length_le reaches (List.prefix_append _ _) ?_
                rw [eq_of_breakOn found]
                simp
                omega
              obtain ⟨short, eq⟩ := within
              rw [dropHead?_eq_some.2 eq.symm] at missing
              cases missing
        rw [missing, ih found]
        rfl

end Text

namespace Markdown

/-! ## Plain texts -/

/-- A character that means nothing inside a line. -/
def isPlainChar (c : Char) : Bool :=
  c == ' ' || (!Text.isBlank c && !"\\`*_![]<&#".toList.contains c)

/-- A character that begins no block. -/
def isPlainStart (c : Char) : Bool := isPlainChar c && !" ~=-+>".toList.contains c

/-- A text that is read as it is written: no character means something, its ends are not blank, and
it does not begin like an item of a numbered list. -/
def isPlain (t : Text) : Bool :=
  t.all isPlainChar && t.head?.any isPlainStart && t.getLast?.any (· != ' ') &&
    !(t.drop (t.takeWhile Text.isDecimal).length).head?.any fun c => c == '.' || c == ')'

/-- A plain text. -/
abbrev PlainText := { t : Text // isPlain t = true }

namespace PlainText

variable (t : PlainText)

theorem chars : ∀ c ∈ t.1, isPlainChar c = true := by
  have plain := t.2
  simp only [isPlain, Bool.and_eq_true, List.all_eq_true] at plain
  exact plain.1.1.1

theorem eq_cons : ∃ c rest, t.1 = c :: rest ∧ isPlainStart c = true := by
  have plain := t.2
  simp only [isPlain, Bool.and_eq_true, Option.any_eq_true] at plain
  obtain ⟨c, head, start⟩ := plain.1.1.2
  obtain ⟨rest, eq⟩ := List.head?_eq_some_iff.1 head
  exact ⟨c, rest, eq, start⟩

theorem eq_concat : ∃ front c, t.1 = front ++ [c] ∧ Text.isBlank c = false := by
  have plain := t.2
  simp only [isPlain, Bool.and_eq_true, Option.any_eq_true] at plain
  obtain ⟨c, last, solid⟩ := plain.1.2
  obtain ⟨front, eq⟩ := List.getLast?_eq_some_iff.1 last
  have char := t.chars c (by simp [eq])
  refine ⟨front, c, eq, ?_⟩
  simp only [isPlainChar] at char
  simp_all

theorem unnumbered : (t.1.drop (t.1.takeWhile Text.isDecimal).length).head?.any
    (fun c => c == '.' || c == ')') = false := by
  have plain := t.2
  simp only [isPlain, Bool.and_eq_true, Bool.not_eq_true'] at plain
  exact plain.2

end PlainText

theorem isPlainChar_ne {c : Char} (plain : isPlainChar c = true) (d : Char)
    (special : isPlainChar d = false) : c ≠ d := by
  rintro rfl
  rw [special] at plain
  cases plain

theorem isPlainStart_ne {c : Char} (start : isPlainStart c = true) (d : Char)
    (special : isPlainStart d = false) : c ≠ d := by
  rintro rfl
  rw [special] at start
  cases start

theorem PlainText.free (t : PlainText) : '\n' ∉ t.1 ∧ '\r' ∉ t.1 :=
  ⟨fun member => isPlainChar_ne (t.chars _ member) '\n' (by decide) rfl,
    fun member => isPlainChar_ne (t.chars _ member) '\r' (by decide) rfl⟩

theorem isBlank_of_isPlainStart {c : Char} (start : isPlainStart c = true) :
    Text.isBlank c = false := by
  have space := isPlainStart_ne start ' ' (by decide)
  simp only [isPlainStart, isPlainChar, Bool.and_eq_true] at start
  simp_all

/-! ## Lines -/

theorem leadingSpaces_cons {c : Char} (solid : c ≠ ' ') (rest : Text) :
    leadingSpaces (c :: rest) = 0 := by
  simp [leadingSpaces, solid]

theorem afterIndent_cons {c : Char} (solid : c ≠ ' ') (limit : Nat) (rest : Text) :
    afterIndent limit (c :: rest) = some (c :: rest) := by
  simp [afterIndent, leadingSpaces_cons solid]

theorem isCodeLine_cons {c : Char} (solid : c ≠ ' ') (tab : c ≠ '\t') (rest : Text) :
    isCodeLine (c :: rest) = false := by
  have spaced : Text.startsWith (c :: rest) (spaces 4) = false := by
    simp [Text.startsWith, spaces, List.replicate, List.isPrefixOf, Ne.symm solid]
  simp only [isCodeLine, spaced, leadingSpaces_cons solid, List.drop_zero, Bool.and_false,
    Bool.false_or]
  split
  · rename_i eq
    exact absurd (List.cons.inj eq).1 tab
  · rfl

theorem fence_cons {c : Char} (solid : c ≠ ' ') (tick : c ≠ '`') (tilde : c ≠ '~') (limit : Nat)
    (rest : Text) : Fence.read? limit (c :: rest) = none := by
  have run : ∀ mark, c ≠ mark → Fence.run mark (c :: rest) = none := by
    intro mark differs
    simp [Fence.run, differs]
  simp [Fence.read?, afterIndent_cons solid, run _ tick, run _ tilde]

theorem atxHeading?_cons {c : Char} (solid : c ≠ ' ') (hash : c ≠ '#') (limit : Nat)
    (rest : Text) : atxHeading? limit (c :: rest) = none := by
  simp [atxHeading?, afterIndent_cons solid, hash]

theorem underline?_cons {c : Char} (solid : c ≠ ' ') (double : c ≠ '=') (single : c ≠ '-')
    (rest : Text) : underline? (c :: rest) = none := by
  have signs : (c :: rest).takeWhile (fun d => d == '=' || d == '-') = [] :=
    List.takeWhile_cons_of_neg (by simp [double, single])
  simp only [underline?, afterIndent_cons solid, Option.bind_eq_bind, Option.bind_some, signs]
  split <;> rfl

theorem isThematicBreak_cons {c : Char} (solid : c ≠ ' ') (unmarked : c ∉ "-_*".toList)
    (limit : Nat) (rest : Text) : isThematicBreak limit (c :: rest) = false := by
  have ne : ∀ d ∈ "-_*".toList, c ≠ d := fun d member eq => unmarked (eq ▸ member)
  simp [isThematicBreak, afterIndent_cons solid, ne '-' (by decide), ne '_' (by decide),
    ne '*' (by decide)]

theorem isQuote_cons {c : Char} (solid : c ≠ ' ') (angle : c ≠ '>') (limit : Nat) (rest : Text) :
    isQuote limit (c :: rest) = false := by
  simp [isQuote, afterIndent_cons solid, angle]

theorem read?_cons {c : Char} (solid : c ≠ ' ') (unmarked : c ∉ "*+-".toList)
    (digit : Text.isDecimal c = false) (limit : Nat) (rest : Text) :
    ListMarker.read? limit (c :: rest) = none := by
  have ne : ∀ d ∈ "*+-".toList, c ≠ d := fun d member eq => unmarked (eq ▸ member)
  have digits : (c :: rest).takeWhile Text.isDecimal = [] :=
    List.takeWhile_cons_of_neg (by simp [digit])
  have bullet : ListMarker.bullet? (c :: rest) = none := by
    simp [ListMarker.bullet?, digits, ne '*' (by decide), ne '+' (by decide), ne '-' (by decide)]
  simp [ListMarker.read?, afterIndent_cons solid, bullet]

theorem definitionLabel?_cons {c : Char} (solid : c ≠ ' ') (bracket : c ≠ '[') (tail : Text)
    (rest : List Line) : definitionLabel? ({ text := c :: tail } :: rest) = none := by
  simp only [definitionLabel?, afterIndent_cons solid]
  split
  · rename_i eq
    exact absurd (List.cons.inj (Option.some.inj eq)).1 bracket
  · rfl

theorem html_cons {c : Char} (solid : c ≠ ' ') (angle : c ≠ '<') (rest : Text) :
    HtmlEnd.read? (c :: rest) = none := by
  rw [HtmlEnd.read?, afterIndent_cons solid, Option.bind_eq_bind, Option.bind_some]
  split
  · rename_i eq
    exact absurd (List.cons.inj eq).1 angle
  · rename_i eq
    exact absurd (List.cons.inj eq).1 angle
  · rfl

/-- A line whose first character is the mark of no other block begins markup, or nothing. -/
theorem find?_cons {c : Char} {tail : Text} (unmarked : c ∉ " `~#=-_*>+[".toList)
    (unnumbered : ((c :: tail).drop ((c :: tail).takeWhile Text.isDecimal).length).head?.any
      (fun c => c == '.' || c == ')') = false) (containers : Bool) (rest : List Line) :
    Start.find? containers ({ text := c :: tail } :: rest) =
      ((HtmlEnd.read? (c :: tail)).map fun (ending, after) => .html ending after).or
        (if Line.isEmpty { text := c :: tail } then some .blank else none) := by
  have ne : ∀ d ∈ " `~#=-_*>+[".toList, c ≠ d := fun d member eq => unmarked (eq ▸ member)
  have solid := ne ' ' (by decide)
  have fence : Fence.read? 3 (c :: tail) = none :=
    fence_cons solid (ne '`' (by decide)) (ne '~' (by decide)) 3 tail
  have atx := atxHeading?_cons solid (ne '#' (by decide)) 3 tail
  have underline := underline?_cons solid (ne '=' (by decide)) (ne '-' (by decide)) tail
  have thematic : isThematicBreak 3 (c :: tail) = false := by
    refine isThematicBreak_cons solid (fun member => unmarked ?_) 3 tail
    have more : "-_*".toList ⊆ " `~#=-_*>+[".toList := by decide
    exact more member
  have quote := isQuote_cons solid (ne '>' (by decide)) 3 tail
  have bullet : ListMarker.bullet? (c :: tail) = none := by
    unfold ListMarker.bullet?
    dsimp only
    rw [if_neg (by simp [ne '*' (by decide), ne '+' (by decide), ne '-' (by decide)])]
    split
    · rfl
    · split
      · rename_i d after eq
        rw [eq] at unnumbered
        exact if_neg (by simpa using unnumbered)
      · rfl
  have list : ListMarker.read? 3 (c :: tail) = none := by
    simp [ListMarker.read?, afterIndent_cons solid, bullet]
  have definition := definitionLabel?_cons solid (ne '[' (by decide)) tail rest
  simp only [Start.find?, fence, atx, underline, thematic, quote, list, definition]
  simp

/-- A plain line begins no block. -/
theorem find?_plain (t : PlainText) (containers : Bool) (rest : List Line) :
    Start.find? containers ({ text := t.1 } :: rest) = none := by
  obtain ⟨c, tail, eq, start⟩ := t.eq_cons
  have ne := isPlainStart_ne start
  have blank := isBlank_of_isPlainStart start
  have unnumbered := t.unnumbered
  rw [eq] at unnumbered ⊢
  -- Only markup or a blank line is left to begin here.
  rw [find?_cons ?_ unnumbered]
  · have html := html_cons (ne ' ' (by decide)) (ne '<' (by decide)) tail
    have empty : Line.isEmpty { text := c :: tail } = false := by
      simp [Line.isEmpty, ne ' ' (by decide), ne '\t' (by decide), ne '\x0b' (by decide),
        ne '\x0c' (by decide)]
    simp [html, empty]
  · have marks : " `~#=-_*>+[".toList.all (!isPlainStart ·) = true := by decide
    intro member
    have special := List.all_eq_true.1 marks c member
    rw [start] at special
    cases special

theorem atxHeading?_hashes (level : Fin 6) (limit : Nat) (title : Text) :
    atxHeading? limit (List.replicate (level + 1) '#' ++ ' ' :: title) =
      some (level.val + 1, ' ' :: title) := by
  have indent : afterIndent limit (List.replicate (level + 1) '#' ++ ' ' :: title) =
      some (List.replicate (level + 1) '#' ++ ' ' :: title) :=
    afterIndent_cons (by decide) limit _
  have hashes : (List.replicate (level + 1) '#' ++ ' ' :: title).takeWhile (· == '#') =
      List.replicate (level + 1) '#' := by
    rw [List.takeWhile_append_of_pos (by simp)]
    simp
  have after : (List.replicate (level + 1) '#' ++ ' ' :: title).drop (level + 1) =
      ' ' :: title := by
    rw [List.drop_left' (by simp)]
  have low : decide (1 ≤ level.val + 1) = true := decide_eq_true (by omega)
  have high : decide (level.val + 1 ≤ 6) = true := decide_eq_true (by omega)
  simp only [atxHeading?, indent, Option.bind_eq_bind, Option.bind_some, hashes,
    List.length_replicate, after, low, high]
  rfl

/-- Hash signs before a space begin a heading. -/
theorem find?_heading (level : Fin 6) (title : Text) (containers : Bool) (rest : List Line) :
    Start.find? containers
        ({ text := List.replicate (level + 1) '#' ++ ' ' :: title } :: rest) =
      some (.atx (level + 1) (' ' :: title)) := by
  have fence : Fence.read? 3 (List.replicate (level + 1) '#' ++ ' ' :: title) = none :=
    fence_cons (by decide) (by decide) (by decide) 3 (List.replicate level '#' ++ ' ' :: title)
  simp only [Start.find?, fence, atxHeading?_hashes]
  rfl

/-! ## Blocks of one line -/

/-- What may stand in a comment that takes one line: the comment ends at the end of the line. -/
def isCommentBody (body : Text) : Bool :=
  Text.breakOn "-->".toList (body ++ "-->".toList) == some (body, []) && !body.contains '\n' &&
    !body.contains '\r'

/-- The body of a comment that takes one line. -/
abbrev CommentBody := { body : Text // isCommentBody body = true }

namespace CommentBody

variable (body : CommentBody)

theorem ends : Text.breakOn "-->".toList (body.1 ++ "-->".toList) = some (body.1, []) := by
  have plain := body.2
  simp only [isCommentBody, Bool.and_eq_true, beq_iff_eq] at plain
  exact plain.1.1

theorem free : '\n' ∉ body.1 ∧ '\r' ∉ body.1 := by
  have plain := body.2
  simp only [isCommentBody, Bool.and_eq_true, Bool.not_eq_true', List.contains_eq_mem,
    decide_eq_false_iff_not] at plain
  exact ⟨plain.1.2, plain.2⟩

end CommentBody

/-- A block that takes one line and is read as it is written. -/
inductive PlainBlock where
  | heading (level : Fin 6) (title : PlainText)
  | paragraph (text : PlainText)
  | comment (body : CommentBody)

namespace PlainBlock

/-- The line that a block takes. -/
def line : PlainBlock → Text
  | heading level title => List.replicate (level + 1) '#' ++ ' ' :: title.1
  | paragraph text => text.1
  | comment body => "<!--".toList ++ body.1 ++ "-->".toList

/-- The block as it is read before its inline content. -/
def raw : PlainBlock → RawBlock
  | heading level title => .heading (level + 1 : Nat) title.1
  | paragraph text => .paragraph (text.1 ++ ['\n'])
  | comment body => .html ("<!--".toList ++ body.1 ++ "-->".toList ++ ['\n'])

/-- The block as a node of a document. -/
def node : PlainBlock → Node
  | heading level title => .heading (level + 1 : Nat) [.text title.1]
  | paragraph text => .block (.paragraph [.text text.1])
  | comment body => .markup ("<!--".toList ++ body.1 ++ "-->".toList)

end PlainBlock

/-! ## Reading inline content -/

theorem isBlank_of_isAsciiBlank (c : Char) (blank : Text.isAsciiBlank c = true) :
    Text.isBlank c = true := by
  simp only [Text.isAsciiBlank, Bool.or_eq_true, beq_iff_eq] at blank
  rcases blank with (((rfl | rfl) | rfl) | rfl) | rfl <;> decide

theorem PlainText.solid (t : PlainText) : Text.Solid t.1 := by
  obtain ⟨c, rest, eq, start⟩ := t.eq_cons
  exact ⟨⟨c, rest, eq, isBlank_of_isPlainStart start⟩, t.eq_concat⟩

/-- A text without marks is one piece. -/
theorem readAll_plain (definitions : Definitions) (t : PlainText) :
    (({} : InlineReader).readAll definitions t.1).pieces = [.text t.1 true] := by
  obtain ⟨c, rest, eq, -⟩ := t.eq_cons
  have quiet : ∀ d ∈ t.1, (!InlineReader.isTrigger d) = true := by
    intro d member
    have ne := isPlainChar_ne (t.chars d member)
    simp [InlineReader.isTrigger, ne '\\' (by decide), ne '`' (by decide), ne '*' (by decide),
      ne '_' (by decide), ne '!' (by decide), ne '[' (by decide), ne ']' (by decide),
      ne '<' (by decide), ne '\n' (by decide)]
  have run : t.1.takeWhile (fun d => !InlineReader.isTrigger d) = t.1 := by
    have whole : (t.1 ++ []).takeWhile (fun d => !InlineReader.isTrigger d) = t.1 ++ [] :=
      List.takeWhile_append_of_pos quiet
    rwa [List.append_nil] at whole
  have step : ({} : InlineReader).step definitions t.1 =
      (({} : InlineReader).pushText t.1, t.1.length) := by
    have nonempty : t.1.isEmpty = false := by rw [eq]; rfl
    simp [InlineReader.step, run, nonempty]
  rw [eq] at step ⊢
  rw [InlineReader.readAll.eq_def]
  simp only [step, List.length_cons, Nat.add_sub_cancel, List.drop_length]
  rw [InlineReader.readAll.eq_def]
  rfl

theorem readInline_plain (definitions : Definitions) (t : PlainText) (tail : Text)
    (blank : ∀ c ∈ tail, Text.isAsciiBlank c = true) :
    readInline definitions (t.1 ++ tail) = [.text t.1] := by
  have trimmed : Text.trimBoth Text.isAsciiBlank (t.1 ++ tail) = t.1 := by
    have trimmed : Text.trimBoth Text.isAsciiBlank ([] ++ t.1 ++ tail) = t.1 :=
      t.solid.trimBoth isBlank_of_isAsciiBlank (by simp) blank
    rwa [List.nil_append] at trimmed
  have nonempty : t.1.isEmpty = false := by
    obtain ⟨c, rest, eq, -⟩ := t.eq_cons
    rw [eq]
    rfl
  have unmarked : Piece.hasMarker (.text t.1 true) = false := by
    refine List.any_eq_false.2 fun c member => ?_
    have ne := isPlainChar_ne (t.chars c member)
    simp [ne '*' (by decide), ne '_' (by decide)]
  rw [readInline, trimmed, nonempty, readAll_plain]
  simp [finishPieces, Piece.joinTexts, unmarked, Piece.toInline]

namespace PlainBlock

theorem solid (block : PlainBlock) : Text.Solid block.line := by
  cases block with
  | heading level title =>
      obtain ⟨front, c, eq, last⟩ := title.eq_concat
      refine ⟨⟨'#', List.replicate level '#' ++ ' ' :: title.1, rfl, by decide⟩,
        ⟨List.replicate (level + 1) '#' ++ ' ' :: front, c, ?_, last⟩⟩
      simp [line, eq]
  | paragraph text => exact text.solid
  | comment body =>
      refine ⟨⟨'<', _, rfl, by decide⟩,
        ⟨"<!--".toList ++ body.1 ++ "--".toList, '>', ?_, by decide⟩⟩
      simp [line]

/-- A block is read as the node it is. -/
theorem ofBlock_map_raw (definitions : Definitions) (block : PlainBlock) :
    Node.ofBlock (block.raw.map (readInline definitions)) = block.node := by
  cases block with
  | heading level title =>
      have title := readInline_plain definitions title [] (by simp)
      rw [List.append_nil] at title
      simp [raw, node, Block.map, Node.ofBlock, title]
  | paragraph text =>
      have content := readInline_plain definitions text ['\n'] (List.all_eq_true.1 rfl)
      simp [raw, node, Block.map, Node.ofBlock, content]
  | comment body =>
      have stripped : Text.strip ([] ++ (comment body).line ++ ['\n']) = (comment body).line :=
        (comment body).solid.trimBoth (fun _ blank => blank) (by simp) (List.all_eq_true.1 rfl)
      rw [List.nil_append] at stripped
      simp only [raw, node, Block.map, Node.ofBlock]
      exact congrArg Node.markup stripped

theorem find?_comment (body : CommentBody) (containers : Bool) (rest : List Line) :
    Start.find? containers ({ text := (comment body).line } :: rest) =
      some (.html (.atText "-->".toList) (body.1 ++ "-->".toList)) := by
  have html : HtmlEnd.read? ('<' :: ('!' :: '-' :: '-' :: (body.1 ++ "-->".toList))) =
      some (.atText "-->".toList, body.1 ++ "-->".toList) := by
    simp only [HtmlEnd.read?, afterIndent_cons (show '<' ≠ ' ' by decide)]
    rfl
  have digits : ∀ tail, ('<' :: tail).takeWhile Text.isDecimal = [] := by
    intro tail
    exact List.takeWhile_cons_of_neg (by decide)
  change Start.find? containers
    ({ text := '<' :: ('!' :: '-' :: '-' :: (body.1 ++ "-->".toList)) } :: rest) = _
  rw [find?_cons (by decide) (by rw [digits]; rfl), html]
  rfl

/-- What follows the end of a comment does not move it. -/
theorem extent_comment (body : CommentBody) (afterParagraph : Bool) (line : Line)
    (rest : List Line) :
    HtmlEnd.extent (.atText "-->".toList) afterParagraph (body.1 ++ "-->".toList) (line :: rest) =
      .lines 1 := by
  have cut := Text.breakOn_append (by decide) body.ends ('\n' :: Line.join rest)
  simp only [HtmlEnd.extent, List.drop_succ_cons, List.drop_zero, cut,
    List.count_eq_zero.2 body.free.1]

/-- No paragraph goes on over a blank line. -/
theorem paragraphLines_blank (containers : Bool) {rest : List Line}
    (alone : rest = [] ∨ ∃ more, rest = { text := [] } :: more) :
    Reader.paragraphLines containers rest = 0 := by
  rcases alone with rfl | ⟨more, rfl⟩
  · rfl
  · have blank : Start.find? containers ({ text := [] } :: more) = some .blank := by
      cases containers <;> rfl
    simp [Reader.paragraphLines, Start.isAt, blank]

/-- A title stands without its blanks and has no hash signs to lose. -/
theorem trimHeading_title (title : PlainText) :
    Reader.trimHeading (Text.trimBoth Reader.isHeadingBlank (' ' :: title.1)) = title.1 := by
  have trimmed : Text.trimBoth Reader.isHeadingBlank ([' '] ++ title.1 ++ []) = title.1 := by
    refine title.solid.trimBoth ?_ (List.all_eq_true.1 rfl) (by simp)
    intro c blank
    simp only [Reader.isHeadingBlank, Bool.or_eq_true, beq_iff_eq] at blank
    rcases blank with blank | rfl
    · exact isBlank_of_isAsciiBlank c blank
    · decide
  rw [List.append_nil] at trimmed
  obtain ⟨front, c, eq, last⟩ := title.eq_concat
  have hash : c ≠ '#' := isPlainChar_ne (title.chars c (by simp [eq])) '#' (by decide)
  have whole : Text.stripEnd title.1 = title.1 := by
    simp [Text.stripEnd, Text.trimEnd, eq, last]
  change Reader.trimHeading (Text.trimBoth Reader.isHeadingBlank ([' '] ++ title.1)) = _
  rw [trimmed, Reader.trimHeading, whole]
  simp [eq, hash]

/-- The line of a block is read as that block. -/
theorem readAll_line (block : PlainBlock) {depth fuel : Nat} {containers : Bool} {reader : Reader}
    {rest : List Line} (lines : reader.lines = { text := block.line } :: rest)
    (alone : rest = [] ∨ ∃ more, rest = { text := [] } :: more)
    (closed : reader.inParagraph = false) :
    Reader.readAll depth containers (fuel + 2) reader =
      Reader.readAll depth containers (fuel + 1)
        { reader with lines := rest, blocks := block.raw :: reader.blocks, fresh := false } := by
  rw [Reader.readAll, lines]
  dsimp only
  cases block with
  | heading level title =>
      have code : isCodeLine (heading level title).line = false :=
        isCodeLine_cons (by decide) (by decide) (List.replicate level '#' ++ ' ' :: title.1)
      have found : Start.find? containers ({ text := (heading level title).line } :: rest) =
          some (.atx (level + 1) (' ' :: title.1)) :=
        find?_heading level title.1 containers rest
      simp [code, found, Reader.readStart, Reader.readAtx, trimHeading_title, Reader.push,
        Reader.advance, lines, raw]
  | paragraph text =>
      have code : isCodeLine (paragraph text).line = false := by
        obtain ⟨c, tail, eq, start⟩ := text.eq_cons
        rw [line, eq]
        exact isCodeLine_cons (isPlainStart_ne start _ (by decide))
          (isPlainStart_ne start _ (by decide)) tail
      have begun : reader.addText ((paragraph text).line ++ ['\n']) =
          reader.push (paragraph text).raw := by
        unfold Reader.addText
        split
        · rename_i content blocks eq
          simp [Reader.inParagraph, eq, Block.isParagraph] at closed
        · rfl
      have found : Start.find? containers ({ text := (paragraph text).line } :: rest) = none :=
        find?_plain text containers rest
      simp [code, found, paragraphLines_blank containers alone, Reader.takeText, lines, Line.join,
        begun, Reader.push, Reader.advance]
  | comment body =>
      have code : isCodeLine (comment body).line = false :=
        isCodeLine_cons (by decide) (by decide) _
      rw [code, find?_comment]
      simp only [Reader.readStart, Reader.readHtml?, lines, extent_comment]
      simp [Line.join, Reader.push, Reader.advance, lines, raw, line]

end PlainBlock

end Markdown

end ExportDocs
