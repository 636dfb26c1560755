/-
# ExportDocs.Proofs.Markdown.Passage -- what a reader reads on its way to a block

Lines that are set off by a blank line do not touch what follows them: whatever they are read as, the
reader comes to the lines after the blank one outside all paragraphs.  So a block that is read
wherever a reader comes to some lines (`Shows`) is also read from a heading, a line of text, a
quotation, fenced code or a list before these lines.
-/
import ExportDocs.Proofs.Markdown.Kept
import ExportDocs.Proofs.Markdown.Plain
import Mathlib.Data.List.TakeWhile

namespace ExportDocs.Markdown

set_option autoImplicit false

/-- Wherever a reader comes to the lines outside a paragraph, it reads the block.  Blank lines before
them are already passed. -/
def Shows (block : RawBlock) (lines : List Line) : Prop :=
  ∀ (fuel : Nat) (reader : Reader), reader.lines = lines.dropWhile (·.isEmpty) →
    reader.inParagraph = false → lines.length + 5 ≤ fuel →
    block ∈ (Reader.readAll 0 true fuel reader).blocks

section Steps

variable {block : RawBlock} {fuel : Nat} {reader : Reader} {line : Line} {rest : List Line}

theorem isEmpty_cons {c : Char} (solid : c ∉ " \t\x0b\x0c".toList) (t : Text) :
    Line.isEmpty { text := c :: t } = false := by
  have ne : ∀ d ∈ " \t\x0b\x0c".toList, c ≠ d := fun d member eq => solid (eq ▸ member)
  simp [Line.isEmpty, ne ' ' (by decide), ne '\t' (by decide), ne '\x0b' (by decide),
    ne '\x0c' (by decide)]

theorem dropWhile_isEmpty_cons (solid : line.isEmpty = false) (rest : List Line) :
    (line :: rest).dropWhile (·.isEmpty) = line :: rest :=
  List.dropWhile_cons_of_neg (by simp [solid])

/-! ## Single steps -/

theorem readAll_start {start : Start} (lines : reader.lines = line :: rest)
    (code : isCodeLine line.text = false) (found : Start.find? true (line :: rest) = some start) :
    Reader.readAll 0 true (fuel + 1) reader =
      Reader.readAll 0 true fuel
        ((Reader.readStart 0 fuel reader start).getD (reader.takeText 1)) := by
  rw [Reader.readAll, lines]
  simp [code, found]

theorem readBlank_lines (lines : reader.lines = { text := [] } :: rest) :
    reader.readBlank.lines = rest.dropWhile (·.isEmpty) := by
  have whole := List.takeWhile_append_dropWhile (p := Line.isEmpty) (l := rest)
  show reader.lines.drop (reader.lines.takeWhile (·.isEmpty)).length = _
  rw [lines, List.takeWhile_cons_of_pos (by rfl), List.length_cons, List.drop_succ_cons]
  exact (congrArg (List.drop _) whole).symm.trans List.drop_left

/-- Reading goes on after blank lines. -/
theorem Shows.afterBlank (shows : Shows block rest) (lines : reader.lines = { text := [] } :: rest)
    (enough : rest.length + 6 ≤ fuel) : block ∈ (Reader.readAll 0 true fuel reader).blocks := by
  obtain ⟨fuel, rfl⟩ : ∃ less, fuel = less + 2 := ⟨fuel - 2, by omega⟩
  rw [readAll_start lines rfl rfl]
  exact shows (fuel + 1) reader.readBlank (readBlank_lines lines) rfl (by omega)

theorem addText_lines (reader : Reader) (t : Text) : (reader.addText t).lines = reader.lines := by
  unfold Reader.addText
  split <;> rfl

/-! ## Blocks before the lines -/

/-- A heading. -/
theorem Shows.heading (shows : Shows block rest) (level : Fin 6) (title : Text) :
    Shows block ({ text := List.replicate (level + 1) '#' ++ ' ' :: title } :: { text := [] } ::
      rest) := by
  intro fuel reader lines outside enough
  have solid : Line.isEmpty { text := List.replicate (level + 1) '#' ++ ' ' :: title } = false :=
    isEmpty_cons (by decide) _
  have code : isCodeLine (List.replicate (level + 1) '#' ++ ' ' :: title) = false :=
    isCodeLine_cons (by decide) (by decide) _
  rw [dropWhile_isEmpty_cons solid] at lines
  simp only [List.length_cons] at enough
  obtain ⟨fuel, rfl⟩ : ∃ less, fuel = less + 2 := ⟨fuel - 2, by omega⟩
  rw [readAll_start lines code (find?_heading level title true _)]
  refine shows.afterBlank ?_ (by omega)
  show reader.lines.drop 1 = _
  rw [lines, List.drop_succ_cons, List.drop_zero]

/-- A line of text. -/
theorem Shows.text (shows : Shows block rest) {t : Text} (solid : Line.isEmpty { text := t } = false)
    (code : isCodeLine t = false)
    (plain : Start.find? true ({ text := t } :: { text := [] } :: rest) = none) :
    Shows block ({ text := t } :: { text := [] } :: rest) := by
  intro fuel reader lines outside enough
  rw [dropWhile_isEmpty_cons solid] at lines
  simp only [List.length_cons] at enough
  obtain ⟨fuel, rfl⟩ : ∃ less, fuel = less + 1 := ⟨fuel - 1, by omega⟩
  have alone := PlainBlock.paragraphLines_blank true (.inr ⟨rest, rfl⟩)
  rw [Reader.readAll, lines]
  simp only [code, plain, alone]
  refine shows.afterBlank ?_ (by omega)
  show (reader.addText _).lines.drop 1 = _
  rw [addText_lines, lines, List.drop_succ_cons, List.drop_zero]

end Steps

/-! ## Links -/

section Links

variable {label : Text} (free : ∀ c ∈ label, c ∉ ['[', ']', '\\'])

include free

theorem labelChars_append (budget : Nat) (rest : Text) :
    labelChars budget (label ++ ']' :: rest) =
      (label.take budget, label.drop budget ++ ']' :: rest) := by
  induction label generalizing budget with
  | nil => cases budget <;> rfl
  | cons c label ih =>
      obtain ⟨here, later⟩ := List.forall_mem_cons.1 free
      have ne : ∀ d ∈ ['[', ']', '\\'], c ≠ d := fun d member eq => here (eq ▸ member)
      cases budget with
      | zero => rfl
      | succ budget =>
          rw [List.cons_append, labelChars, ih later]
          · simp [ne '[' (by decide), ne ']' (by decide), ne '\\' (by decide)]
          · exact fun _ _ eq => absurd eq (ne '\\' (by decide))

/-- A label is read up to its bracket, or not at all if it is too long. -/
theorem readLabel_append (rest : Text) :
    readLabel (label ++ ']' :: rest) = none ∨
      readLabel (label ++ ']' :: rest) = some (label, rest) := by
  rw [readLabel, labelChars_append free]
  split
  · cases long : label.drop maxLabel with
    | nil =>
        have whole : label.take maxLabel = label := by
          have parts := List.take_append_drop maxLabel label
          rwa [long, List.append_nil] at parts
        rw [whole]
        exact .inr rfl
    | cons c more =>
        have inside : c ∈ label := List.mem_of_mem_drop (long ▸ List.mem_cons_self)
        refine .inl ?_
        rw [List.cons_append]
        split
        · rename_i eq
          obtain ⟨rfl, -⟩ := List.cons.inj (Prod.mk.inj eq).2
          exact absurd (by decide) (free _ inside)
        · rfl
  · exact .inl rfl

/-- A link in parentheses does not define its label. -/
theorem definitionLabel?_link (t : Text) (rest : List Line) :
    definitionLabel? ({ text := '[' :: (label ++ ']' :: '(' :: t) } :: rest) = none := by
  have joined : (Line.join ({ text := '[' :: (label ++ ']' :: '(' :: t) } :: rest)).drop
      (leadingSpaces ('[' :: (label ++ ']' :: '(' :: t)) + 1) =
        label ++ ']' :: '(' :: (t ++ '\n' :: Line.join rest) := by
    rw [leadingSpaces_cons (by decide)]
    simp [Line.join]
  simp only [definitionLabel?, afterIndent_cons (show '[' ≠ ' ' by decide), joined]
  rcases readLabel_append free ('(' :: (t ++ '\n' :: Line.join rest)) with missing | found
  · rw [missing]
  · rw [found]
    rfl

/-- A line that begins with a link in parentheses begins no other block. -/
theorem find?_link (t : Text) (rest : List Line) :
    Start.find? true ({ text := '[' :: (label ++ ']' :: '(' :: t) } :: rest) = none := by
  have solid : '[' ≠ ' ' := by decide
  have empty : Line.isEmpty { text := '[' :: (label ++ ']' :: '(' :: t) } = false :=
    isEmpty_cons (by decide) _
  rw [Start.find?, fence_cons solid (by decide) (by decide), atxHeading?_cons solid (by decide),
    underline?_cons solid (by decide) (by decide), isThematicBreak_cons solid (by decide),
    isQuote_cons solid (by decide), read?_cons solid (by decide) (by decide),
    definitionLabel?_link free, html_cons solid (by decide), empty]
  rfl

end Links

/-! ## Lines that begin with a star -/

section Starred

variable {c : Char} (other : c ∉ "* \t".toList) (limit : Nat) (t : Text)

include other

theorem isThematicBreak_starred : isThematicBreak limit ('*' :: c :: t) = false := by
  have ne : ∀ d ∈ "* \t".toList, c ≠ d := fun d member eq => other (eq ▸ member)
  simp [isThematicBreak, afterIndent_cons, Text.isSpaceOrTab, ne '*' (by decide),
    ne ' ' (by decide), ne '\t' (by decide)]

theorem read?_starred : ListMarker.read? limit ('*' :: c :: t) = none := by
  have ne : ∀ d ∈ "* \t".toList, c ≠ d := fun d member eq => other (eq ▸ member)
  simp [ListMarker.read?, afterIndent_cons, ListMarker.bullet?, Text.isSpaceOrTab,
    ne ' ' (by decide), ne '\t' (by decide)]

/-- A star before a letter begins no block. -/
theorem find?_starred (rest : List Line) :
    Start.find? true ({ text := '*' :: c :: t } :: rest) = none := by
  have solid : '*' ≠ ' ' := by decide
  have empty : Line.isEmpty { text := '*' :: c :: t } = false := isEmpty_cons (by decide) _
  rw [Start.find?, fence_cons solid (by decide) (by decide), atxHeading?_cons solid (by decide),
    underline?_cons solid (by decide) (by decide), isThematicBreak_starred other,
    isQuote_cons solid (by decide), read?_starred other, definitionLabel?_cons solid (by decide),
    html_cons solid (by decide), empty]
  rfl

end Starred

/-! ## Quotations -/

section Quotations

variable {c : Char} (unmarked : c ∉ " \t\x0b\x0c`~".toList)

include unmarked

theorem quotedLine?_cons (t : Text) : quotedLine? ('>' :: ' ' :: c :: t) = some (c :: t) := by
  have space : c ≠ ' ' := by
    rintro rfl
    exact unmarked (by decide)
  have tab : c ≠ '\t' := by
    rintro rfl
    exact unmarked (by decide)
  have kept : expandFirstTab (3 - ·) (' ' :: c :: t) = ' ' :: c :: t := by
    have indent : leadingSpaces (' ' :: c :: t) = 1 := by simp [leadingSpaces, space]
    rw [expandFirstTab, indent]
    split
    · rename_i eq
      exact absurd (List.cons.inj eq).1 tab
    · rfl
  rw [quotedLine?, afterIndent_cons (by decide)]
  simp only [kept]

/-- A blank line interrupts a quotation of one line. -/
theorem read_quotation (afterParagraph : Bool) (t : Text) (rest : List Line) :
    QuoteExtent.read afterParagraph
        ({ text := '>' :: ' ' :: c :: t } :: { text := [] } :: rest) =
      { inside := QuoteExtent.finish [(c :: t, false)]
        after := { text := [] } :: rest
        interruption := some .blank } := by
  have ne : ∀ d ∈ " \t\x0b\x0c`~".toList, c ≠ d := fun d member eq => unmarked (eq ▸ member)
  have empty : Line.isEmpty { text := c :: t } = false :=
    isEmpty_cons (fun member => unmarked (List.mem_append_left ['`', '~'] member)) t
  have code : isCodeLine (c :: t) = false :=
    isCodeLine_cons (ne ' ' (by decide)) (ne '\t' (by decide)) t
  have fence : Fence.read? 3 (c :: t) = none :=
    fence_cons (ne ' ' (by decide)) (ne '`' (by decide)) (ne '~' (by decide)) 3 t
  rw [QuoteExtent.read]
  simp only [quotedLine?_cons unmarked, Option.getD_some, empty, code, fence]
  rfl

/-- A quotation of one line. -/
theorem Shows.quote {block : RawBlock} {rest : List Line} (shows : Shows block rest) (t : Text) :
    Shows block ({ text := '>' :: ' ' :: c :: t } :: { text := [] } :: rest) := by
  intro fuel reader lines outside enough
  have found : Start.find? true ({ text := '>' :: ' ' :: c :: t } :: { text := [] } :: rest) =
      some .quote := by
    have fence := fence_cons (show '>' ≠ ' ' by decide) (by decide) (by decide) 3 (' ' :: c :: t)
    simp only [Start.find?, fence]
    rfl
  rw [dropWhile_isEmpty_cons (isEmpty_cons (by decide) _)] at lines
  simp only [List.length_cons] at enough
  obtain ⟨fuel, rfl⟩ : ∃ less, fuel = less + 4 := ⟨fuel - 4, by omega⟩
  have read : Reader.readStart 0 (fuel + 3) reader .quote =
      some (Reader.readQuote 0 (fuel + 2) reader) := rfl
  rw [readAll_start lines (isCodeLine_cons (by decide) (by decide) _) found, read,
    Option.getD_some, Reader.readQuote, lines, read_quotation unmarked]
  -- The blank line is read before the quotation is put in.
  exact shows (fuel + 3) _ (readBlank_lines rfl) rfl (by omega)

end Quotations

/-! ## Fenced code -/

section Fences

variable {fence : Fence} {opening closing : Text} {inside rest : List Line}

/-- The lines up to the first one that closes the fence. -/
def Fence.content (fence : Fence) (lines : List Line) : List Line :=
  lines.takeWhile fun line => !fence.isClosedBy line.text

theorem content_append (closes : fence.isClosedBy closing = true) (inside rest : List Line) :
    fence.content (inside ++ { text := closing } :: rest) = fence.content inside := by
  induction inside with
  | nil => simp [Fence.content, closes]
  | cons line inside ih =>
      unfold Fence.content at ih ⊢
      rw [List.cons_append, List.takeWhile_cons, List.takeWhile_cons, ih]

/-- What fenced code is read as. -/
def Fence.block (fence : Fence) (inside : List Line) : RawBlock :=
  .code (Line.join ((fence.content inside).map fun line =>
    { text := Text.dropUpTo (· == ' ') fence.indent line.text })) (some fence.marker)
    (Text.strip (unescape fence.info))

variable (read : Fence.read? 3 opening = some fence) (valid : fence.isValid = true)
  (solid : Line.isEmpty { text := opening } = false) (code : isCodeLine opening = false)
  (closes : fence.isClosedBy closing = true)

include read valid code closes

theorem readAll_fence {fuel : Nat} {reader : Reader} (lines : reader.lines =
      { text := opening } :: (inside ++ { text := closing } :: rest)) :
    Reader.readAll 0 true (fuel + 2) reader =
      Reader.readAll 0 true (fuel + 1)
        ((reader.push (fence.block inside)).advance ((fence.content inside).length + 2)) := by
  have found : Start.find? true ({ text := opening } :: (inside ++ { text := closing } :: rest)) =
      some (.fence fence) := by
    simp [Start.find?, read]
  have lines' : (reader.lines.drop 1).takeWhile (fun line => !fence.isClosedBy line.text) =
      fence.content inside := by
    rw [lines, List.drop_succ_cons, List.drop_zero]
    exact content_append closes inside rest
  rw [readAll_start lines code found, Reader.readStart, if_pos valid, Option.getD_some,
    Reader.readFence, lines']
  rfl

include solid

/-- Fenced code is read up to the first line that closes its fence. -/
theorem shows_fence :
    Shows (fence.block inside) ({ text := opening } :: (inside ++ { text := closing } :: rest)) := by
  intro fuel reader lines outside enough
  rw [dropWhile_isEmpty_cons solid] at lines
  obtain ⟨fuel, rfl⟩ : ∃ less, fuel = less + 2 := ⟨fuel - 2, by omega⟩
  rw [readAll_fence read valid code closes lines]
  refine (Reader.keepsAt _ (fuel + 1)).all 0 true _ (.refl _) _ ?_ rfl
  exact List.mem_cons_self

/-- Fenced code that only its last line closes. -/
theorem Shows.fenced {block : RawBlock} (shows : Shows block rest)
    (fits : ∀ line ∈ inside, fence.isClosedBy line.text = false) :
    Shows block
      ({ text := opening } :: (inside ++ { text := closing } :: { text := [] } :: rest)) := by
  intro fuel reader lines outside enough
  have whole : fence.content inside = inside := by
    refine List.takeWhile_eq_self_iff.2 fun line member => ?_
    simp [fits line member]
  rw [dropWhile_isEmpty_cons solid] at lines
  simp only [List.length_cons, List.length_append] at enough
  obtain ⟨fuel, rfl⟩ : ∃ less, fuel = less + 2 := ⟨fuel - 2, by omega⟩
  rw [readAll_fence read valid code closes lines, whole]
  refine shows.afterBlank ?_ (by omega)
  show reader.lines.drop (inside.length + 2) = _
  rw [lines, List.drop_succ_cons, List.drop_length_add_append]
  rfl

end Fences

/-! ## Lists -/

/-- The line of an item. -/
def itemLine (body : Text) : Line := { text := '-' :: ' ' :: ' ' :: ' ' :: body }

/-- The mark of an item. -/
def itemMarker (body : Text) : ListMarker := ⟨0, ['-'], ' ' :: ' ' :: ' ' :: body⟩

/-- A text that makes no thematic break of the dash before it. -/
def Unbroken (body : Text) : Prop := body = [] ∨ ∃ c ∈ body, c ∉ "- \t".toList

/-- Lines that end a list after a blank line: none, a heading, or a text that begins with a star. -/
inductive EndsList : List Line → Prop
  | nothing : EndsList []
  | heading (level : Fin 6) (title : Text) (rest : List Line) :
      EndsList ({ text := List.replicate (level + 1) '#' ++ ' ' :: title } :: rest)
  | starred {c : Char} (other : c ∉ "* \t".toList) (t : Text) (rest : List Line) :
      EndsList ({ text := '*' :: c :: t } :: rest)

theorem EndsList.dropWhile_eq_self {following : List Line} (ends : EndsList following) :
    following.dropWhile (·.isEmpty) = following := by
  cases ends with
  | nothing => rfl
  | heading level title rest => exact dropWhile_isEmpty_cons (isEmpty_cons (by decide) _) rest
  | starred => exact dropWhile_isEmpty_cons (isEmpty_cons (by decide) _) _

section Items

variable {body : Text}

theorem read?_item (limit : Nat) (body : Text) :
    ListMarker.read? limit (itemLine body).text = some (itemMarker body) := by
  have indent : afterIndent limit (itemLine body).text = some (itemLine body).text :=
    afterIndent_cons (by decide) limit _
  rw [ListMarker.read?, indent]
  rfl

theorem isThematicBreak_item (unbroken : Unbroken body) (limit : Nat) :
    isThematicBreak limit (itemLine body).text = false := by
  rw [isThematicBreak, itemLine, afterIndent_cons (by decide)]
  dsimp only
  rcases unbroken with rfl | ⟨c, member, other⟩
  · rfl
  · have mixed : (('-' :: ' ' :: ' ' :: ' ' :: body).all
        fun d => d == '-' || Text.isSpaceOrTab d) = false := by
      refine List.all_eq_false.2 ⟨c, by simp [member], fun dash => ?_⟩
      simp only [Text.isSpaceOrTab, Bool.or_eq_true, beq_iff_eq] at dash
      rcases dash with rfl | rfl | rfl <;> exact other (by decide)
    rw [mixed, Bool.and_false, Bool.false_and]

theorem reachColumn_cons {c : Char} (space : c ≠ ' ') (tab : c ≠ '\t') {goal : Nat}
    (positive : 0 < goal) (t : Text) : reachColumn goal 0 (c :: t) = none := by
  unfold reachColumn
  rw [if_neg (by omega)]
  split
  · rename_i eq
    exact absurd (List.cons.inj eq).1 space
  · rename_i eq
    exact absurd (List.cons.inj eq).1 tab
  · rfl

theorem firstLine_positive (body : Text) : 0 < (ItemExtent.firstLine (itemMarker body)).2 := by
  unfold ItemExtent.firstLine
  dsimp only
  split
  · exact Nat.succ_pos _
  · exact Nat.lt_of_lt_of_le Nat.one_pos (Nat.le_add_right 1 _)

/-- The next item follows. -/
theorem collect_item (afterParagraph hollow : Bool) (previous : Text) {column : Nat}
    (positive : 0 < column) (unbroken : Unbroken body) (rest : List Line) :
    ItemExtent.collect afterParagraph (itemMarker previous) column hollow false
        (itemLine body :: rest) =
      { inside := [], after := rest, ending := .item (itemMarker body) false } := by
  have sibling : ItemExtent.sibling? (itemMarker previous) (itemLine body).text =
      some (itemMarker body) := by
    have same : expandTabs 0 (itemLine body).text = (itemLine body).text := rfl
    rw [ItemExtent.sibling?, same, read?_item]
    rfl
  have reached : reachColumn column 0 (itemLine body).text = none :=
    reachColumn_cons (by decide) (by decide) positive _
  have solid : (itemLine body).isEmpty = false := isEmpty_cons (by decide) _
  rw [ItemExtent.collect]
  simp [solid, reached, ItemExtent.turn?, isThematicBreak_item unbroken, sibling]

theorem turn?_heading (afterParagraph previousBlank : Bool) (marker : ListMarker) (level : Fin 6)
    (title : Text) (rest : List Line) :
    ItemExtent.turn? afterParagraph previousBlank marker
        ({ text := List.replicate (level + 1) '#' ++ ' ' :: title } :: rest) =
      some (.interrupted (.atx (level + 1) (' ' :: title))) := by
  let tail := List.replicate level '#' ++ ' ' :: title
  have solid : '#' ≠ ' ' := by decide
  have thematic : ∀ limit, isThematicBreak limit ('#' :: tail) = false := fun limit =>
    isThematicBreak_cons solid (by decide) limit tail
  have sibling : ItemExtent.sibling? marker ('#' :: tail) = none := by
    have same : expandTabs 0 ('#' :: tail) = '#' :: tail := rfl
    rw [ItemExtent.sibling?, same, read?_cons solid (by decide) (by decide)]
    rfl
  have breaks : ∀ limit, ItemExtent.breakAt? limit ('#' :: tail) =
      some (.atx (level + 1) (' ' :: title)) := by
    intro limit
    have fence := fence_cons solid (by decide) (by decide) limit tail
    have atx : atxHeading? limit ('#' :: tail) = some (level.val + 1, ' ' :: title) :=
      atxHeading?_hashes level limit title
    rw [ItemExtent.breakAt?, fence, atx]
    rfl
  show ItemExtent.turn? _ _ _ ({ text := '#' :: tail } :: rest) = _
  simp only [ItemExtent.turn?, thematic, sibling, breaks]
  rfl

theorem interrupting?_cons {c : Char} (solid : c ≠ ' ') (tag : c ≠ '<') (limit : Nat) (t : Text) :
    HtmlEnd.interrupting? limit (c :: t) = none := by
  rw [HtmlEnd.interrupting?, afterIndent_cons solid, Option.bind_eq_bind, Option.bind_some]
  split
  · rename_i eq
    exact absurd (List.cons.inj eq).1 tag
  · rename_i eq
    exact absurd (List.cons.inj eq).1 tag
  · rfl

theorem turn?_starred (afterParagraph previousBlank : Bool) (marker : ListMarker) {c : Char}
    (other : c ∉ "* \t".toList) (t : Text) (rest : List Line) :
    ItemExtent.turn? afterParagraph previousBlank marker ({ text := '*' :: c :: t } :: rest) =
      none := by
  have sibling : ItemExtent.sibling? marker ('*' :: c :: t) = none := by
    have same : expandTabs 0 ('*' :: c :: t) = '*' :: c :: t := rfl
    rw [ItemExtent.sibling?, same, read?_starred other]
    rfl
  have breaks : ∀ limit, ItemExtent.breakAt? limit ('*' :: c :: t) = none := by
    intro limit
    have solid : '*' ≠ ' ' := by decide
    rw [ItemExtent.breakAt?, fence_cons solid (by decide) (by decide),
      atxHeading?_cons solid (by decide), isQuote_cons solid (by decide),
      interrupting?_cons solid (by decide)]
    rfl
  simp [ItemExtent.turn?, isThematicBreak_starred other, sibling, breaks, read?_starred other]

/-- What follows a list after a blank line ends it; only a heading interrupts it. -/
theorem collect_end {following : List Line} (ends : EndsList following)
    (afterParagraph hollow : Bool) (previous : Text) {column : Nat} (positive : 0 < column) :
    ∃ inside ending, ItemExtent.collect afterParagraph (itemMarker previous) column hollow false
        ({ text := [] } :: following) = { inside, after := following, ending } ∧
      (ending = .done ∨ ∃ (level : Fin 6) (title : Text) (rest : List Line),
        following = { text := List.replicate (level + 1) '#' ++ ' ' :: title } :: rest ∧
          ending = .interrupted (.atx (level + 1) (' ' :: title))) := by
  have empty : Line.isEmpty { text := [] } = true := rfl
  rw [ItemExtent.collect]
  simp only [empty, if_true]
  cases ends with
  | nothing => exact ⟨_, _, rfl, .inl rfl⟩
  | heading level title rest =>
      have solid : Line.isEmpty { text := List.replicate (level + 1) '#' ++ ' ' :: title } = false :=
        isEmpty_cons (by decide) _
      have reached : reachColumn column 0 (List.replicate (level + 1) '#' ++ ' ' :: title) = none :=
        reachColumn_cons (by decide) (by decide) positive _
      rw [ItemExtent.collect]
      simp only [solid, reached, turn?_heading]
      exact ⟨_, _, rfl, .inr ⟨level, title, rest, rfl, rfl⟩⟩
  | @starred c other t rest =>
      have solid : Line.isEmpty { text := '*' :: c :: t } = false := isEmpty_cons (by decide) _
      have reached : reachColumn column 0 ('*' :: c :: t) = none :=
        reachColumn_cons (by decide) (by decide) positive _
      rw [ItemExtent.collect]
      simp only [solid, reached, turn?_starred _ _ _ other]
      exact ⟨_, _, rfl, .inl rfl⟩

theorem insertAfter_cons (base : List RawBlock) (block last : RawBlock) :
    Reader.insertAfter base block (last :: base) = last :: block :: base := by
  simp [Reader.insertAfter]

section Last

variable {fuel : Nat} {reader : Reader} (first : ListMarker) (tight : Bool)
  (items : List (List RawBlock)) (previous : Text)

/-- The last item of a list that nothing interrupts. -/
theorem readItems_done {inside : List Text} {after : List Line}
    (extent : ItemExtent.collect reader.inParagraph (itemMarker previous)
        (ItemExtent.firstLine (itemMarker previous)).2
        (ItemExtent.firstLine (itemMarker previous)).1.isEmpty false reader.lines =
      { inside, after, ending := .done }) :
    ∃ list definitions, list.isParagraph = false ∧
      Reader.readItems 0 (fuel + 1) reader first tight items (itemMarker previous) =
        ⟨after, list :: reader.blocks, definitions, false⟩ := by
  rw [Reader.readItems]
  dsimp only
  rw [extent]
  exact ⟨_, _, rfl, rfl⟩

/-- The last item of a list that a heading interrupts: the list goes in before the heading. -/
theorem readItems_atx {inside : List Text} {after : List Line} {level : Nat} {title : Text}
    (extent : ItemExtent.collect reader.inParagraph (itemMarker previous)
        (ItemExtent.firstLine (itemMarker previous)).2
        (ItemExtent.firstLine (itemMarker previous)).1.isEmpty false reader.lines =
      { inside, after, ending := .interrupted (.atx level title) }) :
    ∃ list definitions, list.isParagraph = false ∧
      Reader.readItems 0 (fuel + 2) reader first tight items (itemMarker previous) =
        Reader.readAtx ⟨after, list :: reader.blocks, definitions, false⟩ level title := by
  let before : Reader := { reader with lines := after, fresh := false }
  have read : Reader.readStart 0 (fuel + 1) before (.atx level title) =
      some (before.readAtx level title) := rfl
  have ordered := fun list => insertAfter_cons reader.blocks list
    (.heading level (Reader.trimHeading (Text.trimBoth Reader.isHeadingBlank title)))
  rw [Reader.readItems]
  dsimp only
  rw [extent]
  dsimp only
  rw [show Reader.mk after reader.blocks reader.definitions false = before from rfl, read]
  dsimp only [Option.getD_some, Reader.readAtx, Reader.push, Reader.advance, before]
  rw [ordered]
  exact ⟨_, _, rfl, rfl⟩

end Last

/-- A reader that has read a list, and the heading after it if there is one. -/
def Past (past next : Reader) : Prop :=
  next = past ∨ ∃ (level : Fin 6) (title : Text) (rest : List Line),
    past.lines = { text := List.replicate (level + 1) '#' ++ ' ' :: title } :: rest ∧
      next = past.readAtx (level + 1) (' ' :: title)

/-- The items of a list are read up to the blank line after them.  Whatever the list is made of, one
block for it is left. -/
theorem readItems_items {following : List Line} (ends : EndsList following) (bodies : List Text) :
    ∀ (fuel : Nat) (reader : Reader) (first : ListMarker) (tight : Bool)
      (items : List (List RawBlock)) (previous : Text),
      reader.lines = bodies.map itemLine ++ { text := [] } :: following →
      (∀ body ∈ bodies, Unbroken body) → bodies.length + 2 ≤ fuel →
      ∃ list definitions, list.isParagraph = false ∧
        Past ⟨following, list :: reader.blocks, definitions, false⟩
          (Reader.readItems 0 fuel reader first tight items (itemMarker previous)) := by
  induction bodies with
  | nil =>
      intro fuel reader first tight items previous lines _ enough
      obtain ⟨fuel, rfl⟩ : ∃ less, fuel = less + 2 := ⟨fuel - 2, by omega⟩
      obtain ⟨inside, ending, extent, turn⟩ := collect_end ends reader.inParagraph
        (ItemExtent.firstLine (itemMarker previous)).1.isEmpty previous (firstLine_positive previous)
      rw [List.map_nil, List.nil_append] at lines
      rw [← lines] at extent
      rcases turn with rfl | ⟨level, title, rest, rfl, rfl⟩
      · obtain ⟨list, definitions, other, read⟩ := readItems_done first tight items previous extent
        exact ⟨list, definitions, other, .inl read⟩
      · obtain ⟨list, definitions, other, read⟩ := readItems_atx first tight items previous extent
        exact ⟨list, definitions, other, .inr ⟨level, title, rest, rfl, read⟩⟩
  | cons body bodies ih =>
      intro fuel reader first tight items previous lines unbroken enough
      rw [List.length_cons] at enough
      obtain ⟨fuel, rfl⟩ : ∃ less, fuel = less + 1 := ⟨fuel - 1, by omega⟩
      obtain ⟨here, later⟩ := List.forall_mem_cons.1 unbroken
      rw [Reader.readItems]
      dsimp only
      rw [lines, List.map_cons, List.cons_append,
        collect_item _ _ _ (firstLine_positive previous) here]
      exact ih _ _ _ _ _ _ rfl later (by omega)

/-- The line of an item begins a list, also where it looks like an underline. -/
theorem find?_item (unbroken : Unbroken body) (rest : List Line) :
    Start.find? true (itemLine body :: rest) = some (.list (itemMarker body)) ∨
      ∃ level, Start.find? true (itemLine body :: rest) = some (.underline level) := by
  have fence : Fence.read? 3 (itemLine body).text = none :=
    fence_cons (by decide) (by decide) (by decide) 3 _
  have atx : atxHeading? 3 (itemLine body).text = none :=
    atxHeading?_cons (by decide) (by decide) 3 _
  cases under : underline? (itemLine body).text with
  | some level => exact .inr ⟨level, by simp [Start.find?, fence, atx, under]⟩
  | none =>
      refine .inl ?_
      have quote : isQuote 3 (itemLine body).text = false :=
        isQuote_cons (by decide) (by decide) 3 _
      simp [Start.find?, fence, atx, under, isThematicBreak_item unbroken, quote, read?_item]

/-- The first item of a list. -/
theorem readAll_item {fuel : Nat} {reader : Reader} {rest : List Line}
    (lines : reader.lines = itemLine body :: rest) (outside : reader.inParagraph = false)
    (unbroken : Unbroken body) :
    Reader.readAll 0 true (fuel + 3) reader =
      Reader.readAll 0 true (fuel + 2)
        (Reader.readItems 0 fuel (reader.advance 1) (itemMarker body) true []
          (itemMarker body)) := by
  have code : isCodeLine (itemLine body).text = false := isCodeLine_cons (by decide) (by decide) _
  have list : Reader.readList 0 (fuel + 1) reader (itemMarker body) =
      Reader.readItems 0 fuel (reader.advance 1) (itemMarker body) true [] (itemMarker body) := by
    have alone : reader.continueParagraph? = none := by simp [Reader.continueParagraph?, outside]
    rw [Reader.readList]
    simp [alone]
  -- An underline with no paragraph above it is read as the list that it also begins.
  rcases find?_item unbroken rest with found | ⟨level, found⟩
  · rw [readAll_start lines code found, Reader.readStart, Option.getD_some, list]
  · have alone : reader.underline? level = none := by
      unfold Reader.underline?
      split
      · rename_i blocks
        simp [Reader.inParagraph, blocks, Block.isParagraph] at outside
      · rfl
    have read : Reader.readStart 0 (fuel + 2) reader (.underline level) =
        some (Reader.readList 0 (fuel + 1) reader (itemMarker body)) := by
      have kept : (itemLine body).lazy = false := rfl
      rw [Reader.readStart, lines]
      simp [kept, alone, isThematicBreak_item unbroken, read?_item]
    rw [readAll_start lines code found, read, Option.getD_some, list]

/-- A list of items. -/
theorem Shows.items {block : RawBlock} {following : List Line} (shows : Shows block following)
    (ends : EndsList following) {body : Text} {bodies : List Text}
    (unbroken : ∀ item ∈ body :: bodies, Unbroken item) :
    Shows block ((body :: bodies).map itemLine ++ { text := [] } :: following) := by
  intro fuel reader lines outside enough
  obtain ⟨here, later⟩ := List.forall_mem_cons.1 unbroken
  have item : (itemLine body).isEmpty = false := isEmpty_cons (by decide) _
  rw [List.map_cons, List.cons_append, dropWhile_isEmpty_cons item] at lines
  simp only [List.length_append, List.length_map, List.length_cons] at enough
  obtain ⟨fuel, rfl⟩ : ∃ less, fuel = less + 4 := ⟨fuel - 4, by omega⟩
  have tail : (reader.advance 1).lines = bodies.map itemLine ++ { text := [] } :: following := by
    rw [Reader.advance, lines]
    rfl
  obtain ⟨list, definitions, other, past⟩ := readItems_items ends bodies (fuel + 1)
    (reader.advance 1) (itemMarker body) true [] body tail later (by omega)
  have solid := ends.dropWhile_eq_self
  have arrives := shows (fuel + 4) ⟨following, list :: (reader.advance 1).blocks, definitions, false⟩
    solid.symm other (by omega)
  rw [readAll_item lines outside here]
  rcases past with read | ⟨level, title, rest, heading, read⟩
  · rw [read]
    exact shows (fuel + 3) _ solid.symm other (by omega)
  · -- Reading the heading from after the list leads to the same reader.
    rw [readAll_start heading (isCodeLine_cons (by decide) (by decide) _)
      (find?_heading level title true rest)] at arrives
    rw [read]
    exact arrives

end Items

/-! ## Documents -/

theorem mem_mapBlocks {α β : Type} {f : α → β} {blocks : List (Block α)} {block : Block α}
    (member : block ∈ blocks) : block.map f ∈ mapBlocks f blocks := by
  induction blocks with
  | nil => cases member
  | cons first blocks ih =>
      rw [mapBlocks]
      rcases List.mem_cons.1 member with rfl | later
      · exact List.mem_cons_self
      · exact List.mem_cons_of_mem _ (ih later)

/-- Code that is read from the lines of a text is a node of its document. -/
theorem Shows.mem_ofMarkdown {raw info text : Text} {fence : Option Text}
    (shows : Shows (.code raw fence info) (sourceLines text))
    (solid : (sourceLines text).dropWhile (·.isEmpty) = sourceLines text) :
    Node.block (.code raw fence info) ∈ Document.ofMarkdown text := by
  have enough : (sourceLines text).length + 5 ≤ Reader.fuelFor (sourceLines text) := by
    rw [Reader.fuelFor]
    have grows := Nat.le_mul_of_pos_right (8 * ((sourceLines text).length + 2))
      (show 0 < (Line.join (sourceLines text)).length + 2 by omega)
    omega
  have member := shows (Reader.fuelFor (sourceLines text)) { lines := sourceLines text } solid.symm
    rfl enough
  exact List.mem_map.2 ⟨_, mem_mapBlocks (List.mem_reverse.2 member), rfl⟩

end ExportDocs.Markdown
